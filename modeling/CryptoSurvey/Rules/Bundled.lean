import CryptoSurvey.Rules.RuleSet

namespace CryptoSurvey

namespace Bundled

def constant (name : String) (words : List UInt32) : Constant where
  name := name
  bytes := words.flatMap fun w : UInt32 =>
    [(w >>> 24).toUInt8, (w >>> 16).toUInt8, (w >>> 8).toUInt8, w.toUInt8]

def sm2N : Constant :=
  constant "sm2_n"
    [0xfffffffe, 0xffffffff, 0xffffffff, 0xffffffff, 0x7203df6b, 0x21c6052b, 0x53bbf409, 0x39d54123]

def sm2P : Constant :=
  constant "sm2_p"
    [0xfffffffe, 0xffffffff, 0xffffffff, 0xffffffff, 0xffffffff, 0x00000000, 0xffffffff, 0xffffffff]

def sm3Iv : Constant :=
  constant "sm3_iv"
    [0x7380166f, 0x4914b2b9, 0x172442d7, 0xda8a0600, 0xa96f30bc, 0x163138aa, 0xe38dee4d, 0xb0fb0e4e]

def sm3IvLe : Constant :=
  constant "sm3_iv_le"
    [0x6f168073, 0xb9b21449, 0xd7422417, 0x00068ada, 0xbc306fa9, 0xaa383116, 0x4dee8de3, 0x4e0efbb0]

def sm4Ck : Constant :=
  constant "sm4_ck"
    [0x00070e15, 0x1c232a31, 0x383f464d, 0x545b6269, 0x70777e85, 0x8c939aa1, 0xa8afb6bd, 0xc4cbd2d9,
     0xe0e7eef5, 0xfc030a11, 0x181f262d, 0x343b4249, 0x50575e65, 0x6c737a81, 0x888f969d, 0xa4abb2b9,
     0xc0c7ced5, 0xdce3eaf1, 0xf8ff060d, 0x141b2229, 0x30373e45, 0x4c535a61, 0x686f767d, 0x848b9299,
     0xa0a7aeb5, 0xbcc3cad1, 0xd8dfe6ed, 0xf4fb0209, 0x10171e25, 0x2c333a41, 0x484f565d, 0x646b7279]

def sm4CkLe : Constant :=
  constant "sm4_ck_le"
    [0x150e0700, 0x312a231c, 0x4d463f38, 0x69625b54, 0x857e7770, 0xa19a938c, 0xbdb6afa8, 0xd9d2cbc4,
     0xf5eee7e0, 0x110a03fc, 0x2d261f18, 0x49423b34, 0x655e5750, 0x817a736c, 0x9d968f88, 0xb9b2aba4,
     0xd5cec7c0, 0xf1eae3dc, 0x0d06fff8, 0x29221b14, 0x453e3730, 0x615a534c, 0x7d766f68, 0x99928b84,
     0xb5aea7a0, 0xd1cac3bc, 0xede6dfd8, 0x0902fbf4, 0x251e1710, 0x413a332c, 0x5d564f48, 0x79726b64]

def sm4Fk : Constant :=
  constant "sm4_fk"
    [0xa3b1bac6, 0x56aa3350, 0x677d9197, 0xb27022dc]

def sm4FkLe : Constant :=
  constant "sm4_fk_le"
    [0xc6bab1a3, 0x5033aa56, 0x97917d67, 0xdc2270b2]

def sm4Sbox : Constant :=
  constant "sm4_sbox"
    [0xd690e9fe, 0xcce13db7, 0x16b614c2, 0x28fb2c05, 0x2b679a76, 0x2abe04c3, 0xaa441326, 0x49860699,
     0x9c4250f4, 0x91ef987a, 0x33540b43, 0xedcfac62, 0xe4b31ca9, 0xc908e895, 0x80df94fa, 0x758f3fa6,
     0x4707a7fc, 0xf37317ba, 0x83593c19, 0xe6854fa8, 0x686b81b2, 0x7164da8b, 0xf8eb0f4b, 0x70569d35,
     0x1e240e5e, 0x6358d1a2, 0x25227c3b, 0x01217887, 0xd4004657, 0x9fd32752, 0x4c3602e7, 0xa0c4c89e,
     0xeabf8ad2, 0x40c738b5, 0xa3f7f2ce, 0xf96115a1, 0xe0ae5da4, 0x9b341a55, 0xad933230, 0xf58cb1e3,
     0x1df6e22e, 0x8266ca60, 0xc02923ab, 0x0d534e6f, 0xd5db3745, 0xdefd8e2f, 0x03ff6a72, 0x6d6c5b51,
     0x8d1baf92, 0xbbddbc7f, 0x11d95c41, 0x1f105ad8, 0x0ac13188, 0xa5cd7bbd, 0x2d74d012, 0xb8e5b4b0,
     0x8969974a, 0x0c96777e, 0x65b9f109, 0xc56ec684, 0x18f07dec, 0x3adc4d20, 0x79ee5f3e, 0xd7cb3948]

def aesInvSbox : Constant :=
  constant "aes_inv_sbox"
    [0x52096ad5, 0x3036a538, 0xbf40a39e, 0x81f3d7fb, 0x7ce33982, 0x9b2fff87, 0x348e4344, 0xc4dee9cb,
     0x547b9432, 0xa6c2233d, 0xee4c950b, 0x42fac34e, 0x082ea166, 0x28d924b2, 0x765ba249, 0x6d8bd125,
     0x72f8f664, 0x86689816, 0xd4a45ccc, 0x5d65b692, 0x6c704850, 0xfdedb9da, 0x5e154657, 0xa78d9d84,
     0x90d8ab00, 0x8cbcd30a, 0xf7e45805, 0xb8b34506, 0xd02c1e8f, 0xca3f0f02, 0xc1afbd03, 0x01138a6b,
     0x3a911141, 0x4f67dcea, 0x97f2cfce, 0xf0b4e673, 0x96ac7422, 0xe7ad3585, 0xe2f937e8, 0x1c75df6e,
     0x47f11a71, 0x1d29c589, 0x6fb7620e, 0xaa18be1b, 0xfc563e4b, 0xc6d27920, 0x9adbc0fe, 0x78cd5af4,
     0x1fdda833, 0x8807c731, 0xb1121059, 0x2780ec5f, 0x60517fa9, 0x19b54a0d, 0x2de57a9f, 0x93c99cef,
     0xa0e03b4d, 0xae2af5b0, 0xc8ebbb3c, 0x83539961, 0x172b047e, 0xba77d626, 0xe1691463, 0x55210c7d]

def aesSbox : Constant :=
  constant "aes_sbox"
    [0x637c777b, 0xf26b6fc5, 0x3001672b, 0xfed7ab76, 0xca82c97d, 0xfa5947f0, 0xadd4a2af, 0x9ca472c0,
     0xb7fd9326, 0x363ff7cc, 0x34a5e5f1, 0x71d83115, 0x04c723c3, 0x1896059a, 0x071280e2, 0xeb27b275,
     0x09832c1a, 0x1b6e5aa0, 0x523bd6b3, 0x29e32f84, 0x53d100ed, 0x20fcb15b, 0x6acbbe39, 0x4a4c58cf,
     0xd0efaafb, 0x434d3385, 0x45f9027f, 0x503c9fa8, 0x51a3408f, 0x929d38f5, 0xbcb6da21, 0x10fff3d2,
     0xcd0c13ec, 0x5f974417, 0xc4a77e3d, 0x645d1973, 0x60814fdc, 0x222a9088, 0x46eeb814, 0xde5e0bdb,
     0xe0323a0a, 0x4906245c, 0xc2d3ac62, 0x9195e479, 0xe7c8376d, 0x8dd54ea9, 0x6c56f4ea, 0x657aae08,
     0xba78252e, 0x1ca6b4c6, 0xe8dd741f, 0x4bbd8b8a, 0x703eb566, 0x4803f60e, 0x613557b9, 0x86c11d9e,
     0xe1f89811, 0x69d98e94, 0x9b1e87e9, 0xce5528df, 0x8ca1890d, 0xbfe64268, 0x41992d0f, 0xb054bb16]

/-- The known algorithms, the strongest first. -/
def algorithms : List Algorithm :=
  [.configured "sm2" [] [sm2N, sm2P],
   .configured "sm3" [] [sm3Iv, sm3IvLe],
   .configured "sm4" ["sms4"] [sm4Ck, sm4CkLe, sm4Fk, sm4FkLe, sm4Sbox],
   .configured "aes" [] [aesInvSbox, aesSbox]]

theorem algorithms_faultless : RegistryFault.first? [] [] algorithms = none := by
  decide +kernel

def registry : Registry :=
  ⟨algorithms, algorithms_faultless⟩

def packerNames : List String :=
  ["libchaosvmp.so", "libddog.so", "libfdog.so", "libexec.so", "libexecmain.so", "ijiami.so",
   "libsecexe.so", "libsecmain.so", "libDexHelper.so", "libprotectClass.so", "libjiagu.so",
   "libjiagu_art.so", "libjiagu_x86.so", "libegis.so", "libNSaferOnly.so", "libnqshield.so",
   "libbaiduprotect.so", "libBugly.so", "libtup.so", "libshell.so", "aliprotect.so",
   "libsgmain.so", "libsgsecuritybody.so", "libtosprotection.armeabi.so",
   "libtosprotection.armeabi-v7a.so", "libtosprotection.x86.so", "libnesec.so", "libAPKProtect.so",
   "libkwscmm.so", "libkwscr.so", "libkwslinker.so"]

/-- Files of one packer that end in a version number: the text `libshellx-`, a digit, any digits and
dots, and the extension. -/
def versionedShell : Pattern :=
  let digit : Text.CodeSet := ⟨[('0'.toNat, '9'.toNat)]⟩
  let digitOrDot : Text.CodeSet := ⟨[('.'.toNat, '.'.toNat), ('0'.toNat, '9'.toNat)]⟩
  .seq (.look .textStart) <| .seq (.literal "libshellx-".toList) <| .seq (.set digit) <|
    .seq (.times (.set digitOrDot) 0 none) <| .seq (.literal ".so".toList) (.look .textEnd)

def packers : Packers where
  names := .ofList packerNames
  patterns := [versionedShell]

end Bundled

def RuleSet.bundled : RuleSet where
  registry := Bundled.registry
  exclusions := {}
  regions := Signature.standardRegions
  packers := Bundled.packers

end CryptoSurvey
