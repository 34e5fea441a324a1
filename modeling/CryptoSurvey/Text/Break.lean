import CryptoSurvey.Text.Property

namespace CryptoSurvey.Text

structure BreakClass where
  /-- Its names in lower case without separators. -/
  names : List String
  codes : CodeSet

/-- Hangul syllables: every 28th has two parts and those between have three. -/
def hangulSyllables (two : Bool) : CodeSet :=
  ⟨(List.range 399).map fun k =>
    let first := 0xac00 + 28 * k
    if two then (first, first) else (first + 1, first + 27)⟩

/-- Where a character stands in a cluster of characters that are seen as one. -/
def graphemeBreaks : List BreakClass :=
  [{ names := ["cr"]
     codes := .ofText "d" },
   { names := ["control", "cn"]
     codes := ((Category.codesOfAll
       [.lineSeparator, .paragraphSeparator, .control, .format]).diff <| .ofText
         "a d 600-605 6dd 70f 890-891 8e2 200c-200d 110bd 110cd e0020-e007f").union <| .ofText
         "2065 fff0-fff8 e0000 e0002-e001f e0080-e00ff e01f0-e0fff" },
   { names := ["extend", "ex"]
     codes := (Property.codesOf "graphemeextend").union <| .ofText
         "1f3fb-1f3ff" },
   { names := ["l"]
     codes := .ofText "1100-115f a960-a97c" },
   { names := ["lf"]
     codes := .ofText "a" },
   { names := ["lv"]
     codes := hangulSyllables true },
   { names := ["lvt"]
     codes := hangulSyllables false },
   { names := ["prepend", "pp"]
     codes := .ofText
         "600-605 6dd 70f 890-891 8e2 d4e 110bd 110cd 111c2-111c3 113d1 1193f 11941 11a3a
11a84-11a89 11d46 11f02" },
   { names := ["regionalindicator", "ri"]
     codes := .ofText "1f1e6-1f1ff" },
   { names := ["spacingmark", "sm"]
     codes := ((Category.codesOfAll [.spacingMark]).diff <| .ofText
         "9be 9d7 b3e b57 bbe bd7 cc0 cc2 cc7-cc8 cca-ccb cd5-cd6 d3e d57 dcf ddf 102b-102c 1038
1062-1064 1067-106d 1083 1087-108c 108f 109a-109c 1715 1734 1a61 1a63-1a64 1b35 1b3b 1b3d
1b43-1b44 1baa 1bf2-1bf3 302e-302f a953 a9c0 aa7b aa7d 111c0 11235 1133e 1134d 11357 113b8 113c2
113c5 113c7-113c9 113cf 114b0 114bd 115af 116b6 11720-11721 11930 1193d 11f41 16ff0-16ff1
1d165-1d166 1d16d-1d172").union <| .ofText
         "e33 eb3" },
   { names := ["t"]
     codes := .ofText "11a8-11ff d7cb-d7fb" },
   { names := ["v"]
     codes := .ofText "1160-11a7 d7b0-d7c6 16d63 16d67-16d6a" },
   { names := ["zwj"]
     codes := .ofText "200d" }]

def wordBreaks : List BreakClass :=
  [{ names := ["aletter", "le"]
     codes := ((Property.codesOf "alphabetic").diff <| .ofText
         "345 363-36f 5b0-5bd 5bf 5c1-5c2 5c4-5c5 5c7 5d0-5ea 5ef-5f2 610-61a 64b-657 659-65f 670
6d6-6dc 6e1-6e4 6e7-6e8 6ed 711 730-73f 7a6-7b0 816-817 81b-823 825-827 829-82c 897 8d4-8df
8e3-8e9 8f0-903 93a-93b 93e-94c 94e-94f 955-957 962-963 981-983 9be-9c4 9c7-9c8 9cb-9cc 9d7
9e2-9e3 a01-a03 a3e-a42 a47-a48 a4b-a4c a51 a70-a71 a75 a81-a83 abe-ac5 ac7-ac9 acb-acc ae2-ae3
afa-afc b01-b03 b3e-b44 b47-b48 b4b-b4c b56-b57 b62-b63 b82 bbe-bc2 bc6-bc8 bca-bcc bd7 c00-c04
c3e-c44 c46-c48 c4a-c4c c55-c56 c62-c63 c81-c83 cbe-cc4 cc6-cc8 cca-ccc cd5-cd6 ce2-ce3 cf3
d00-d03 d3e-d44 d46-d48 d4a-d4c d57 d62-d63 d81-d83 dcf-dd4 dd6 dd8-ddf df2-df3 e01-e3a e40-e46
e4d e81-e82 e84 e86-e8a e8c-ea3 ea5 ea7-eb9 ebb-ebd ec0-ec4 ec6 ecd edc-edf f71-f83 f8d-f97
f99-fbc 1000-1036 1038 103b-103f 1050-108f 109a-109d 1712-1713 1732-1733 1752-1753 1772-1773
1780-17b3 17b6-17c8 17d7 17dc 1885-1886 18a9 1920-192b 1930-1938 1950-196d 1970-1974 1980-19ab
19b0-19c9 1a17-1a1b 1a20-1a5e 1a61-1a74 1aa7 1abf-1ac0 1acc-1ace 1b00-1b04 1b35-1b43 1b80-1b82
1ba1-1ba9 1bac-1bad 1be7-1bf1 1c24-1c36 1dd3-1df4 2de0-2dff 3006-3007 3021-3029 3031-3035
3038-303a 3041-3096 309d-309f 30a1-30fa 30fc-30ff 31f0-31ff 3400-4dbf 4e00-9fff a674-a67b
a69e-a69f a802 a80b a823-a827 a880-a881 a8b4-a8c3 a8c5 a8ff a926-a92a a947-a952 a980-a983
a9b4-a9bf a9e0-a9ef a9fa-a9fe aa29-aa36 aa43 aa4c-aa4d aa60-aa76 aa7a-aabe aac0 aac2 aadb-aadd
aaeb-aaef aaf5 abe3-abea f900-fa6d fa70-fad9 fb1d-fb28 fb2a-fb36 fb38-fb3c fb3e fb40-fb41
fb43-fb44 fb46-fb4f ff66-ff9f 10376-1037a 10a01-10a03 10a05-10a06 10a0c-10a0f 10d24-10d27 10d69
10eab-10eac 10efc 11000-11002 11038-11045 11073-11074 11080-11082 110b0-110b8 110c2 11100-11102
11127-11132 11145-11146 11180-11182 111b3-111bf 111ce-111cf 1122c-11234 11237 1123e 11241
112df-112e8 11300-11303 1133e-11344 11347-11348 1134b-1134c 11357 11362-11363 113b8-113c0 113c2
113c5 113c7-113ca 113cc-113cd 11435-11441 11443-11445 114b0-114c1 115af-115b5 115b8-115be
115dc-115dd 11630-1163e 11640 116ab-116b5 11700-1171a 1171d-1172a 11740-11746 1182c-11838
11930-11935 11937-11938 1193b-1193c 11940 11942 119d1-119d7 119da-119df 119e4 11a01-11a0a
11a35-11a39 11a3b-11a3e 11a51-11a5b 11a8a-11a97 11c2f-11c36 11c38-11c3e 11c92-11ca7 11ca9-11cb6
11d31-11d36 11d3a 11d3c-11d3d 11d3f-11d41 11d43 11d47 11d8a-11d8e 11d90-11d91 11d93-11d96
11ef3-11ef6 11f00-11f01 11f03 11f34-11f3a 11f3e-11f40 1611e-1612e 16f4f 16f51-16f87 16f8f-16f92
16ff0-16ff1 17000-187f7 18800-18cd5 18cff-18d08 1aff0-1aff3 1aff5-1affb 1affd-1affe 1b000-1b122
1b132 1b150-1b152 1b155 1b164-1b167 1b170-1b2fb 1bc9e 1e000-1e006 1e008-1e018 1e01b-1e021
1e023-1e024 1e026-1e02a 1e08f 1e947 20000-2a6df 2a700-2b739 2b740-2b81d 2b820-2cea1 2ceb0-2ebe0
2ebf0-2ee5d 2f800-2fa1d 30000-3134a 31350-323af").union <| .ofText
         "b8 2c2-2c5 2d2-2d7 2de-2df 2e5-2eb 2ed 2ef-2ff 55a-55c 55e 58a 5f3 70f a708-a716
a720-a721 a789-a78a ab5b" },
   { names := ["cr"]
     codes := .ofText "d" },
   { names := ["doublequote", "dq"]
     codes := .ofText "22" },
   { names := ["extend"]
     codes := ((Property.codesOf "graphemeextend").union
       (Category.codes .spacingMark)).union <| .ofText
         "1f3fb-1f3ff" },
   { names := ["extendnumlet", "ex"]
     codes := .ofText "5f 202f 203f-2040 2054 fe33-fe34 fe4d-fe4f ff3f" },
   { names := ["format", "fo"]
     codes := (Category.codesOfAll [.format]).diff <| .ofText
         "600-605 6dd 70f 890-891 8e2 200b-200d 110bd 110cd e0020-e007f" },
   { names := ["hebrewletter", "hl"]
     codes := .ofText
         "5d0-5ea 5ef-5f2 fb1d fb1f-fb28 fb2a-fb36 fb38-fb3c fb3e fb40-fb41 fb43-fb44 fb46-fb4f" },
   { names := ["katakana", "ka"]
     codes := .ofText
         "3031-3035 309b-309c 30a0-30fa 30fc-30ff 31f0-31ff 32d0-32fe 3300-3357 ff66-ff9d
1aff0-1aff3 1aff5-1affb 1affd-1affe 1b000 1b120-1b122 1b155 1b164-1b167" },
   { names := ["lf"]
     codes := .ofText "a" },
   { names := ["midletter", "ml"]
     codes := .ofText "3a b7 387 55f 5f4 2027 fe13 fe55 ff1a" },
   { names := ["midnum", "mn"]
     codes := .ofText "2c 3b 37e 589 60c-60d 66c 7f8 2044 fe10 fe14 fe50 fe54 ff0c ff1b" },
   { names := ["midnumlet", "mb"]
     codes := .ofText "2e 2018-2019 2024 fe52 ff07 ff0e" },
   { names := ["newline", "nl"]
     codes := .ofText "b-c 85 2028-2029" },
   { names := ["numeric", "nu"]
     codes := (Category.codesOfAll [.decimalNumber]).union <| .ofText
         "600-605 66b 6dd 890-891 8e2 19da 110bd 110cd" },
   { names := ["regionalindicator", "ri"]
     codes := .ofText "1f1e6-1f1ff" },
   { names := ["singlequote", "sq"]
     codes := .ofText "27" },
   { names := ["wsegspace"]
     codes := .ofText "20 1680 2000-2006 2008-200a 205f 3000" },
   { names := ["zwj"]
     codes := .ofText "200d" }]

def sentenceBreaks : List BreakClass :=
  [{ names := ["aterm", "at"]
     codes := .ofText "2e 2024 fe52 ff0e" },
   { names := ["cr"]
     codes := .ofText "d" },
   { names := ["close", "cl"]
     codes := (Category.codesOfAll [.openPunctuation, .closePunctuation, .initialPunctuation,
       .finalPunctuation]).union <| .ofText
         "22 27 275b-2760 2e00-2e01 2e06-2e08 2e0b 1f676-1f678" },
   { names := ["extend", "ex"]
     codes := ((Property.codesOf "graphemeextend").union
       (Category.codes .spacingMark)).union <| .ofText
         "200d" },
   { names := ["format", "fo"]
     codes := (Category.codesOfAll [.format]).diff <| .ofText
         "600-605 6dd 890-891 8e2 200c-200d 110bd 110cd e0020-e007f" },
   { names := ["lf"]
     codes := .ofText "a" },
   { names := ["lower", "lo"]
     codes := (Property.codesOf "lowercase").diff <| .ofText
         "345 10d0-10fa 10fd-10ff" },
   { names := ["numeric", "nu"]
     codes := (Category.codesOfAll [.decimalNumber]).union <| .ofText
         "600-605 66b-66c 6dd 890-891 8e2 19da 110bd 110cd" },
   { names := ["oletter", "le"]
     codes := ((Property.codesOf "alphabetic").diff <| .ofText
         "41-5a 61-7a aa b5 ba c0-d6 d8-f6 f8-1ba 1bc-1bf 1c4-293 295-2b8 2c0-2c1 2e0-2e4 345
363-373 376-377 37a-37d 37f 386 388-38a 38c 38e-3a1 3a3-3f5 3f7-481 48a-52f 531-556 560-588
5b0-5bd 5bf 5c1-5c2 5c4-5c5 5c7 610-61a 64b-657 659-65f 670 6d6-6dc 6e1-6e4 6e7-6e8 6ed 711
730-73f 7a6-7b0 816-817 81b-823 825-827 829-82c 897 8d4-8df 8e3-8e9 8f0-903 93a-93b 93e-94c
94e-94f 955-957 962-963 981-983 9be-9c4 9c7-9c8 9cb-9cc 9d7 9e2-9e3 a01-a03 a3e-a42 a47-a48
a4b-a4c a51 a70-a71 a75 a81-a83 abe-ac5 ac7-ac9 acb-acc ae2-ae3 afa-afc b01-b03 b3e-b44 b47-b48
b4b-b4c b56-b57 b62-b63 b82 bbe-bc2 bc6-bc8 bca-bcc bd7 c00-c04 c3e-c44 c46-c48 c4a-c4c c55-c56
c62-c63 c81-c83 cbe-cc4 cc6-cc8 cca-ccc cd5-cd6 ce2-ce3 cf3 d00-d03 d3e-d44 d46-d48 d4a-d4c d57
d62-d63 d81-d83 dcf-dd4 dd6 dd8-ddf df2-df3 e31 e34-e3a e4d eb1 eb4-eb9 ebb-ebc ecd f71-f83
f8d-f97 f99-fbc 102b-1036 1038 103b-103e 1056-1059 105e-1060 1062-1064 1067-106d 1071-1074
1082-108d 108f 109a-109d 10a0-10c5 10c7 10cd 10fc 13a0-13f5 13f8-13fd 1712-1713 1732-1733
1752-1753 1772-1773 17b6-17c8 1885-1886 18a9 1920-192b 1930-1938 1a17-1a1b 1a55-1a5e 1a61-1a74
1abf-1ac0 1acc-1ace 1b00-1b04 1b35-1b43 1b80-1b82 1ba1-1ba9 1bac-1bad 1be7-1bf1 1c24-1c36
1c80-1c8a 1d00-1dbf 1dd3-1df4 1e00-1f15 1f18-1f1d 1f20-1f45 1f48-1f4d 1f50-1f57 1f59 1f5b 1f5d
1f5f-1f7d 1f80-1fb4 1fb6-1fbc 1fbe 1fc2-1fc4 1fc6-1fcc 1fd0-1fd3 1fd6-1fdb 1fe0-1fec 1ff2-1ff4
1ff6-1ffc 2071 207f 2090-209c 2102 2107 210a-2113 2115 2119-211d 2124 2126 2128 212a-212d
212f-2134 2139 213c-213f 2145-2149 214e 2160-217f 2183-2184 24b6-24e9 2c00-2ce4 2ceb-2cee
2cf2-2cf3 2d00-2d25 2d27 2d2d 2de0-2dff a640-a66d a674-a67b a680-a69f a722-a787 a78b-a78e
a790-a7cd a7d0-a7d1 a7d3 a7d5-a7dc a7f2-a7f6 a7f8-a7fa a802 a80b a823-a827 a880-a881 a8b4-a8c3
a8c5 a8ff a926-a92a a947-a952 a980-a983 a9b4-a9bf a9e5 aa29-aa36 aa43 aa4c-aa4d aa7b-aa7d aab0
aab2-aab4 aab7-aab8 aabe aaeb-aaef aaf5 ab30-ab5a ab5c-ab69 ab70-abbf abe3-abea fb00-fb06
fb13-fb17 fb1e ff21-ff3a ff41-ff5a ff9e-ff9f 10376-1037a 10400-1044f 104b0-104d3 104d8-104fb
10570-1057a 1057c-1058a 1058c-10592 10594-10595 10597-105a1 105a3-105b1 105b3-105b9 105bb-105bc
10780 10783-10785 10787-107b0 107b2-107ba 10a01-10a03 10a05-10a06 10a0c-10a0f 10c80-10cb2
10cc0-10cf2 10d24-10d27 10d50-10d65 10d69 10d70-10d85 10eab-10eac 10efc 11000-11002 11038-11045
11073-11074 11080-11082 110b0-110b8 110c2 11100-11102 11127-11132 11145-11146 11180-11182
111b3-111bf 111ce-111cf 1122c-11234 11237 1123e 11241 112df-112e8 11300-11303 1133e-11344
11347-11348 1134b-1134c 11357 11362-11363 113b8-113c0 113c2 113c5 113c7-113ca 113cc-113cd
11435-11441 11443-11445 114b0-114c1 115af-115b5 115b8-115be 115dc-115dd 11630-1163e 11640
116ab-116b5 1171d-1172a 1182c-11838 118a0-118df 11930-11935 11937-11938 1193b-1193c 11940 11942
119d1-119d7 119da-119df 119e4 11a01-11a0a 11a35-11a39 11a3b-11a3e 11a51-11a5b 11a8a-11a97
11c2f-11c36 11c38-11c3e 11c92-11ca7 11ca9-11cb6 11d31-11d36 11d3a 11d3c-11d3d 11d3f-11d41 11d43
11d47 11d8a-11d8e 11d90-11d91 11d93-11d96 11ef3-11ef6 11f00-11f01 11f03 11f34-11f3a 11f3e-11f40
1611e-1612e 16e40-16e7f 16f4f 16f51-16f87 16f8f-16f92 16ff0-16ff1 1bc9e 1d400-1d454 1d456-1d49c
1d49e-1d49f 1d4a2 1d4a5-1d4a6 1d4a9-1d4ac 1d4ae-1d4b9 1d4bb 1d4bd-1d4c3 1d4c5-1d505 1d507-1d50a
1d50d-1d514 1d516-1d51c 1d51e-1d539 1d53b-1d53e 1d540-1d544 1d546 1d54a-1d550 1d552-1d6a5
1d6a8-1d6c0 1d6c2-1d6da 1d6dc-1d6fa 1d6fc-1d714 1d716-1d734 1d736-1d74e 1d750-1d76e 1d770-1d788
1d78a-1d7a8 1d7aa-1d7c2 1d7c4-1d7cb 1df00-1df09 1df0b-1df1e 1df25-1df2a 1e000-1e006 1e008-1e018
1e01b-1e021 1e023-1e024 1e026-1e02a 1e030-1e06d 1e08f 1e900-1e943 1e947 1f130-1f149 1f150-1f169
1f170-1f189").union <| .ofText
         "5f3" },
   { names := ["scontinue", "sc"]
     codes := .ofText
         "2c-2d 3a-3b 37e 55d 60c-60d 7f8 1802 1808 2013-2014 3001 fe10-fe11 fe13-fe14 fe31-fe32
fe50-fe51 fe54-fe55 fe58 fe63 ff0c-ff0d ff1a-ff1b ff64" },
   { names := ["sterm", "st"]
     codes := (Property.codesOf "sentenceterminal").diff <| .ofText
         "2e 2024 fe52 ff0e" },
   { names := ["sep", "se"]
     codes := .ofText "85 2028-2029" },
   { names := ["sp"]
     codes := .ofText "9 b-c 20 a0 1680 2000-200a 202f 205f 3000" },
   { names := ["upper", "up"]
     codes := ((Property.codesOf "uppercase").union
       (Category.codes .titlecaseLetter)).diff <| .ofText
         "1c90-1cba 1cbd-1cbf" }]

namespace BreakClass

def named? (classes : List BreakClass) (name : String) : Option BreakClass :=
  classes.find? (·.names.contains name)

end BreakClass

end CryptoSurvey.Text
