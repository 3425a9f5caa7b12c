import PagePreview.Text.Category

/-! Properties of code points by their names: general categories, scripts, and sets of characters
that are alike in some way. -/

namespace PagePreview.Text

inductive Property
  | any | ascii | assigned | alphabetic | lowercase | uppercase | cased | caseIgnorable
  | nameStart | nameRest
  | categories (cs : List Category)
  | ranges (table : Array (Nat × Nat))

namespace Property

def otherAlphabetic : Array (Nat × Nat) := readRanges "
345 363-36F 5B0-5BD 5BF 5C1-5C2 5C4-5C5 5C7 610-61A 64B-657 659-65F 670 6D6-6DC 6E1-6E4 6E7-6E8
6ED 711 730-73F 7A6-7B0 816-817 81B-823 825-827 829-82C 897 8D4-8DF 8E3-8E9 8F0-903 93A-93B
93E-94C 94E-94F 955-957 962-963 981-983 9BE-9C4 9C7-9C8 9CB-9CC 9D7 9E2-9E3 A01-A03 A3E-A42
A47-A48 A4B-A4C A51 A70-A71 A75 A81-A83 ABE-AC5 AC7-AC9 ACB-ACC AE2-AE3 AFA-AFC B01-B03 B3E-B44
B47-B48 B4B-B4C B56-B57 B62-B63 B82 BBE-BC2 BC6-BC8 BCA-BCC BD7 C00-C04 C3E-C44 C46-C48 C4A-C4C
C55-C56 C62-C63 C81-C83 CBE-CC4 CC6-CC8 CCA-CCC CD5-CD6 CE2-CE3 CF3 D00-D03 D3E-D44 D46-D48
D4A-D4C D57 D62-D63 D81-D83 DCF-DD4 DD6 DD8-DDF DF2-DF3 E31 E34-E3A E4D EB1 EB4-EB9 EBB-EBC ECD
F71-F83 F8D-F97 F99-FBC 102B-1036 1038 103B-103E 1056-1059 105E-1060 1062-1064 1067-106D 1071-1074
1082-108D 108F 109A-109D 1712-1713 1732-1733 1752-1753 1772-1773 17B6-17C8 1885-1886 18A9
1920-192B 1930-1938 1A17-1A1B 1A55-1A5E 1A61-1A74 1ABF-1AC0 1ACC-1ACE 1B00-1B04 1B35-1B43
1B80-1B82 1BA1-1BA9 1BAC-1BAD 1BE7-1BF1 1C24-1C36 1DD3-1DF4 24B6-24E9 2DE0-2DFF A674-A67B
A69E-A69F A802 A80B A823-A827 A880-A881 A8B4-A8C3 A8C5 A8FF A926-A92A A947-A952 A980-A983
A9B4-A9BF A9E5 AA29-AA36 AA43 AA4C-AA4D AA7B-AA7D AAB0 AAB2-AAB4 AAB7-AAB8 AABE AAEB-AAEF AAF5
ABE3-ABEA FB1E 10376-1037A 10A01-10A03 10A05-10A06 10A0C-10A0F 10D24-10D27 10D69 10EAB-10EAC
10EFA-10EFC 11000-11002 11038-11045 11073-11074 11080-11082 110B0-110B8 110C2 11100-11102
11127-11132 11145-11146 11180-11182 111B3-111BF 111CE-111CF 1122C-11234 11237 1123E 11241
112DF-112E8 11300-11303 1133E-11344 11347-11348 1134B-1134C 11357 11362-11363 113B8-113C0 113C2
113C5 113C7-113CA 113CC-113CD 11435-11441 11443-11445 114B0-114C1 115AF-115B5 115B8-115BE
115DC-115DD 11630-1163E 11640 116AB-116B5 1171D-1172A 1182C-11838 11930-11935 11937-11938
1193B-1193C 11940 11942 119D1-119D7 119DA-119DF 119E4 11A01-11A0A 11A35-11A39 11A3B-11A3E
11A51-11A5B 11A8A-11A97 11B60-11B67 11C2F-11C36 11C38-11C3E 11C92-11CA7 11CA9-11CB6 11D31-11D36
11D3A 11D3C-11D3D 11D3F-11D41 11D43 11D47 11D8A-11D8E 11D90-11D91 11D93-11D96 11EF3-11EF6
11F00-11F01 11F03 11F34-11F3A 11F3E-11F40 1611E-1612E 16F4F 16F51-16F87 16F8F-16F92 16FF0-16FF1
1BC9E 1E000-1E006 1E008-1E018 1E01B-1E021 1E023-1E024 1E026-1E02A 1E08F 1E6E3 1E6E6 1E6EE-1E6EF
1E6F5 1E947 1F130-1F149 1F150-1F169 1F170-1F189"

def letterCategories : List Category :=
  [.uppercaseLetter, .lowercaseLetter, .titlecaseLetter, .modifierLetter, .otherLetter, .letterNumber]

def otherStart : Array (Nat × Nat) := readRanges "1885-1886 2118 212E 309B-309C"
def otherRest : Array (Nat × Nat) := readRanges "B7 387 1369-1371 19DA 200C-200D 30FB FF65"

def isNameStart (n : Nat) : Bool :=
  (letterCategories.contains (category n) || inRanges otherStart n) && n != 0x2E2F

def isNameRest (n : Nat) : Bool :=
  isNameStart n || inRanges otherRest n ||
    [.nonspacingMark, .spacingMark, .decimalNumber, .connectorPunctuation].contains (category n)

def holds (n : Nat) : Property → Bool
  | .any => true
  | .ascii => n < 128
  | .assigned => category n != .unassigned
  | .alphabetic => letterCategories.contains (category n) || inRanges otherAlphabetic n
  | .lowercase => isLowercase n
  | .uppercase => isUppercase n
  | .cased => isCased n
  | .caseIgnorable => isCaseIgnorable n
  | .nameStart => isNameStart n
  | .nameRest => isNameRest n
  | .categories cs => cs.contains (category n)
  | .ranges table => inRanges table n

def setTable : String := "
Emoji=Emoji 23 2A 30-39 A9 AE 203C 2049 2122 2139 2194-2199 21A9-21AA 231A-231B 2328 23CF
23E9-23F3 23F8-23FA 24C2 25AA-25AB 25B6 25C0 25FB-25FE 2600-2604 260E 2611 2614-2615 2618 261D
2620 2622-2623 2626 262A 262E-262F 2638-263A 2640 2642 2648-2653 265F-2660 2663 2665-2666 2668
267B 267E-267F 2692-2697 2699 269B-269C 26A0-26A1 26A7 26AA-26AB 26B0-26B1 26BD-26BE 26C4-26C5
26C8 26CE-26CF 26D1 26D3-26D4 26E9-26EA 26F0-26F5 26F7-26FA 26FD 2702 2705 2708-270D 270F 2712
2714 2716 271D 2721 2728 2733-2734 2744 2747 274C 274E 2753-2755 2757 2763-2764 2795-2797 27A1
27B0 27BF 2934-2935 2B05-2B07 2B1B-2B1C 2B50 2B55 3030 303D 3297 3299 1F004 1F0CF 1F170-1F171
1F17E-1F17F 1F18E 1F191-1F19A 1F1E6-1F1FF 1F201-1F202 1F21A 1F22F 1F232-1F23A 1F250-1F251
1F300-1F321 1F324-1F393 1F396-1F397 1F399-1F39B 1F39E-1F3F0 1F3F3-1F3F5 1F3F7-1F4FD 1F4FF-1F53D
1F549-1F54E 1F550-1F567 1F56F-1F570 1F573-1F57A 1F587 1F58A-1F58D 1F590 1F595-1F596 1F5A4-1F5A5
1F5A8 1F5B1-1F5B2 1F5BC 1F5C2-1F5C4 1F5D1-1F5D3 1F5DC-1F5DE 1F5E1 1F5E3 1F5E8 1F5EF 1F5F3
1F5FA-1F64F 1F680-1F6C5 1F6CB-1F6D2 1F6D5-1F6D8 1F6DC-1F6E5 1F6E9 1F6EB-1F6EC 1F6F0 1F6F3-1F6FC
1F7E0-1F7EB 1F7F0 1F90C-1F93A 1F93C-1F945 1F947-1F9FF 1FA70-1FA7C 1FA80-1FA8A 1FA8E-1FAC6 1FAC8
1FACD-1FADC 1FADF-1FAEA 1FAEF-1FAF8 EPres=Emoji_Presentation 231A-231B 23E9-23EC 23F0 23F3
25FD-25FE 2614-2615 2648-2653 267F 2693 26A1 26AA-26AB 26BD-26BE 26C4-26C5 26CE 26D4 26EA
26F2-26F3 26F5 26FA 26FD 2705 270A-270B 2728 274C 274E 2753-2755 2757 2795-2797 27B0 27BF
2B1B-2B1C 2B50 2B55 1F004 1F0CF 1F18E 1F191-1F19A 1F1E6-1F1FF 1F201 1F21A 1F22F 1F232-1F236
1F238-1F23A 1F250-1F251 1F300-1F320 1F32D-1F335 1F337-1F37C 1F37E-1F393 1F3A0-1F3CA 1F3CF-1F3D3
1F3E0-1F3F0 1F3F4 1F3F8-1F43E 1F440 1F442-1F4FC 1F4FF-1F53D 1F54B-1F54E 1F550-1F567 1F57A
1F595-1F596 1F5A4 1F5FB-1F64F 1F680-1F6C5 1F6CC 1F6D0-1F6D2 1F6D5-1F6D8 1F6DC-1F6DF 1F6EB-1F6EC
1F6F4-1F6FC 1F7E0-1F7EB 1F7F0 1F90C-1F93A 1F93C-1F945 1F947-1F9FF 1FA70-1FA7C 1FA80-1FA8A
1FA8E-1FAC6 1FAC8 1FACD-1FADC 1FADF-1FAEA 1FAEF-1FAF8 EMod=Emoji_Modifier 1F3FB-1F3FF
EBase=Emoji_Modifier_Base 261D 26F9 270A-270D 1F385 1F3C2-1F3C4 1F3C7 1F3CA-1F3CC 1F442-1F443
1F446-1F450 1F466-1F478 1F47C 1F481-1F483 1F485-1F487 1F48F 1F491 1F4AA 1F574-1F575 1F57A 1F590
1F595-1F596 1F645-1F647 1F64B-1F64F 1F6A3 1F6B4-1F6B6 1F6C0 1F6CC 1F90C 1F90F 1F918-1F91F 1F926
1F930-1F939 1F93C-1F93E 1F977 1F9B5-1F9B6 1F9B8-1F9B9 1F9BB 1F9CD-1F9CF 1F9D1-1F9DD 1FAC3-1FAC5
1FAF0-1FAF8 EComp=Emoji_Component 23 2A 30-39 200D 20E3 FE0F 1F1E6-1F1FF 1F3FB-1F3FF 1F9B0-1F9B3
E0020-E007F ExtPict=Extended_Pictographic A9 AE 203C 2049 2122 2139 2194-2199 21A9-21AA 231A-231B
2328 23CF 23E9-23F3 23F8-23FA 24C2 25AA-25AB 25B6 25C0 25FB-25FE 2600-2604 260E 2611 2614-2615
2618 261D 2620 2622-2623 2626 262A 262E-262F 2638-263A 2640 2642 2648-2653 265F-2660 2663
2665-2666 2668 267B 267E-267F 2692-2697 2699 269B-269C 26A0-26A1 26A7 26AA-26AB 26B0-26B1
26BD-26BE 26C4-26C5 26C8 26CE-26CF 26D1 26D3-26D4 26E9-26EA 26F0-26F5 26F7-26FA 26FD 2702 2705
2708-270D 270F 2712 2714 2716 271D 2721 2728 2733-2734 2744 2747 274C 274E 2753-2755 2757
2763-2764 2795-2797 27A1 27B0 27BF 2934-2935 2B05-2B07 2B1B-2B1C 2B50 2B55 3030 303D 3297 3299
1F004 1F02C-1F02F 1F094-1F09F 1F0AF-1F0B0 1F0C0 1F0CF-1F0D0 1F0F6-1F0FF 1F170-1F171 1F17E-1F17F
1F18E 1F191-1F19A 1F1AE-1F1E5 1F201-1F20F 1F21A 1F22F 1F232-1F23A 1F23C-1F23F 1F249-1F25F
1F266-1F321 1F324-1F393 1F396-1F397 1F399-1F39B 1F39E-1F3F0 1F3F3-1F3F5 1F3F7-1F3FA 1F400-1F4FD
1F4FF-1F53D 1F549-1F54E 1F550-1F567 1F56F-1F570 1F573-1F57A 1F587 1F58A-1F58D 1F590 1F595-1F596
1F5A4-1F5A5 1F5A8 1F5B1-1F5B2 1F5BC 1F5C2-1F5C4 1F5D1-1F5D3 1F5DC-1F5DE 1F5E1 1F5E3 1F5E8 1F5EF
1F5F3 1F5FA-1F64F 1F680-1F6C5 1F6CB-1F6D2 1F6D5-1F6E5 1F6E9 1F6EB-1F6F0 1F6F3-1F6FF 1F7DA-1F7FF
1F80C-1F80F 1F848-1F84F 1F85A-1F85F 1F888-1F88F 1F8AE-1F8AF 1F8BC-1F8BF 1F8C2-1F8CF 1F8D9-1F8FF
1F90C-1F93A 1F93C-1F945 1F947-1F9FF 1FA58-1FA5F 1FA6E-1FAFF 1FC00-1FFFD Math=Math 2B 3C-3E 5E 7C
7E AC B1 D7 F7 3D0-3D2 3D5 3F0-3F1 3F4-3F6 606-608 2016 2032-2034 2040 2044 2052 2061-2064
207A-207E 208A-208E 20D0-20DC 20E1 20E5-20E6 20EB-20EF 2102 2107 210A-2113 2115 2118-211D 2124
2128-2129 212C-212D 212F-2131 2133-2138 213C-2149 214B 2190-21A7 21A9-21AE 21B0-21B1 21B6-21B7
21BC-21DB 21DD 21E4-21E5 21F4-22FF 2308-230B 2320-2321 237C 239B-23B5 23B7 23D0 23DC-23E2
25A0-25A1 25AE-25B7 25BC-25C1 25C6-25C7 25CA-25CB 25CF-25D3 25E2 25E4 25E7-25EC 25F8-25FF
2605-2606 2640 2642 2660-2663 266D-266F 27C0-27FF 2900-2AFF 2B30-2B44 2B47-2B4C FB29 FE61-FE66
FE68 FF0B FF1C-FF1E FF3C FF3E FF5C FF5E FFE2 FFE9-FFEC 10D8E-10D8F 1CEF0 1D400-1D454 1D456-1D49C
1D49E-1D49F 1D4A2 1D4A5-1D4A6 1D4A9-1D4AC 1D4AE-1D4B9 1D4BB 1D4BD-1D4C3 1D4C5-1D505 1D507-1D50A
1D50D-1D514 1D516-1D51C 1D51E-1D539 1D53B-1D53E 1D540-1D544 1D546 1D54A-1D550 1D552-1D6A5
1D6A8-1D7CB 1D7CE-1D7FF 1EE00-1EE03 1EE05-1EE1F 1EE21-1EE22 1EE24 1EE27 1EE29-1EE32 1EE34-1EE37
1EE39 1EE3B 1EE42 1EE47 1EE49 1EE4B 1EE4D-1EE4F 1EE51-1EE52 1EE54 1EE57 1EE59 1EE5B 1EE5D 1EE5F
1EE61-1EE62 1EE64 1EE67-1EE6A 1EE6C-1EE72 1EE74-1EE77 1EE79-1EE7C 1EE7E 1EE80-1EE89 1EE8B-1EE9B
1EEA1-1EEA3 1EEA5-1EEA9 1EEAB-1EEBB 1EEF0-1EEF1 1F8D0-1F8D8 Dash=Dash 2D 58A 5BE 1400 1806
2010-2015 2053 207B 208B 2212 2E17 2E1A 2E3A-2E3B 2E40 2E5D 301C 3030 30A0 FE31-FE32 FE58 FE63
FF0D 10D6E 10EAD Hex=Hex_Digit 30-39 41-46 61-66 FF10-FF19 FF21-FF26 FF41-FF46 Ideo=Ideographic
3006-3007 3021-3029 3038-303A 3400-4DBF 4E00-9FFF F900-FA6D FA70-FAD9 16FE4 16FF2-16FF6
17000-18CD5 18CFF-18D1E 18D80-18DF2 1B170-1B2FB 20000-2A6DF 2A700-2B81D 2B820-2CEAD 2CEB0-2EBE0
2EBF0-2EE5D 2F800-2FA1D 30000-3134A 31350-33479 space=White_Space 9-D 20 85 A0 1680 2000-200A
2028-2029 202F 205F 3000 Dia=Diacritic 5E 60 A8 AF B4 B7-B8 2B0-34E 350-357 35D-362 374-375 37A
384-385 483-487 559 591-5BD 5BF 5C1-5C2 5C4-5C5 5C7 64B-652 657-658 6DF-6E0 6E5-6E6 6EA-6EC
730-74A 7A6-7B0 7EB-7F5 818-819 898-89F 8C9-8D2 8E3-8FE 93C 94D 951-954 971 9BC 9CD A3C A4D ABC
ACD AFD-AFF B3C B4D B55 BCD C3C C4D CBC CCD D3B-D3C D4D DCA E3A E47-E4C E4E EBA EC8-ECC F18-F19
F35 F37 F39 F3E-F3F F82-F84 F86-F87 FC6 1037 1039-103A 1063-1064 1069-106D 1087-108D 108F
109A-109B 135D-135F 1714-1715 1734 17C9-17D3 17DD 1939-193B 1A60 1A75-1A7C 1A7F 1AB0-1ABE
1AC1-1ACB 1ACF-1ADD 1AE0-1AEB 1B34 1B44 1B6B-1B73 1BAA-1BAB 1BE6 1BF2-1BF3 1C36-1C37 1C78-1C7D
1CD0-1CE8 1CED 1CF4 1CF7-1CF9 1D2C-1D6A 1D9B-1DBE 1DC4-1DCF 1DF5-1DFF 1FBD 1FBF-1FC1 1FCD-1FCF
1FDD-1FDF 1FED-1FEF 1FFD-1FFE 2CEF-2CF1 2E2F 302A-302F 3099-309C 30FC A66F A67C-A67D A67F
A69C-A69D A6F0-A6F1 A700-A721 A788-A78A A7F1 A7F8-A7F9 A806 A82C A8C4 A8E0-A8F1 A92B-A92E A953
A9B3 A9C0 A9E5 AA7B-AA7D AABF-AAC2 AAF6 AB5B-AB5F AB69-AB6B ABEC-ABED FB1E FE20-FE2F FF3E FF40
FF70 FF9E-FF9F FFE3 102E0 10780-10785 10787-107B0 107B2-107BA 10A38-10A3A 10A3F 10AE5-10AE6
10D22-10D27 10D4E 10D69-10D6D 10EFA 10EFD-10EFF 10F46-10F50 10F82-10F85 11046 11070 110B9-110BA
11133-11134 11173 111C0 111CA-111CC 11235-11236 112E9-112EA 1133B-1133C 1134D 11366-1136C
11370-11374 113CE-113D0 113D2-113D3 113E1-113E2 11442 11446 114C2-114C3 115BF-115C0 1163F
116B6-116B7 1172B 11839-1183A 1193D-1193E 11943 119E0 11A34 11A47 11A99 11C3F 11D42 11D44-11D45
11D97 11DD9 11F41-11F42 11F5A 13447-13455 1612F 16AF0-16AF4 16B30-16B36 16D6B-16D6C 16F8F-16F9F
16FF0-16FF1 1AFF0-1AFF3 1AFF5-1AFFB 1AFFD-1AFFE 1CF00-1CF2D 1CF30-1CF46 1D167-1D169 1D16D-1D172
1D17B-1D182 1D185-1D18B 1D1AA-1D1AD 1E030-1E06D 1E130-1E136 1E2AE 1E2EC-1E2EF 1E5EE-1E5EF
1E8D0-1E8D6 1E944-1E946 1E948-1E94A Ext=Extender B7 2D0-2D1 640 7FA A71 AFB B55 E46 EC6 180A 1843
1AA7 1C36 1C7B 3005 3031-3035 309D-309E 30FC-30FE A015 A60C A9CF A9E6 AA70 AADD AAF3-AAF4 FF70
10781-10782 10D4E 10D6A 10D6F 11237 1135D 113D2-113D3 115C6-115C8 11A98 11DD9 16B42-16B43
16FE0-16FE1 16FE3 16FF2-16FF3 1E13C-1E13D 1E5EF 1E944-1E946 QMark=Quotation_Mark 22 27 AB BB
2018-201F 2039-203A 2E42 300C-300F 301D-301F FE41-FE44 FF02 FF07 FF62-FF63 RI=Regional_Indicator
1F1E6-1F1FF UIdeo=Unified_Ideograph 3400-4DBF 4E00-9FFF FA0E-FA0F FA11 FA13-FA14 FA1F FA21
FA23-FA24 FA27-FA29 20000-2A6DF 2A700-2B81D 2B820-2CEAD 2CEB0-2EBE0 2EBF0-2EE5D 30000-3134A
31350-33479 VS=Variation_Selector 180B-180D 180F FE00-FE0F E0100-E01EF
NChar=Noncharacter_Code_Point FDD0-FDEF FFFE-FFFF 1FFFE-1FFFF 2FFFE-2FFFF 3FFFE-3FFFF 4FFFE-4FFFF
5FFFE-5FFFF 6FFFE-6FFFF 7FFFE-7FFFF 8FFFE-8FFFF 9FFFE-9FFFF AFFFE-AFFFF BFFFE-BFFFF CFFFE-CFFFF
DFFFE-DFFFF EFFFE-EFFFF FFFFE-FFFFF 10FFFE-10FFFF Join_C=Join_Control 200C-200D
DI=Default_Ignorable_Code_Point AD 34F 61C 115F-1160 17B4-17B5 180B-180F 200B-200F 202A-202E
2060-206F 3164 FE00-FE0F FEFF FFA0 FFF0-FFF8 1BCA0-1BCA3 1D173-1D17A E0000-E0FFF
STerm=Sentence_Terminal 21 2E 3F 589 61D-61F 6D4 700-702 7F9 837 839 83D-83E 964-965 104A-104B
1362 1367-1368 166E 1735-1736 17D4-17D5 1803 1809 1944-1945 1AA8-1AAB 1B4E-1B4F 1B5A-1B5B
1B5E-1B5F 1B7D-1B7F 1C3B-1C3C 1C7E-1C7F 2024 203C-203D 2047-2049 2CF9-2CFB 2E2E 2E3C 2E53-2E54
3002 A4FF A60E-A60F A6F3 A6F7 A876-A877 A8CE-A8CF A92F A9C8-A9C9 AA5D-AA5F AAF0-AAF1 ABEB FE12
FE15-FE16 FE52 FE56-FE57 FF01 FF0E FF1F FF61 10A56-10A57 10F55-10F59 10F86-10F89 11047-11048
110BE-110C1 11141-11143 111C5-111C6 111CD 111DE-111DF 11238-11239 1123B-1123C 112A9 113D4-113D5
1144B-1144C 115C2-115C3 115C9-115D7 11641-11642 1173C-1173E 11944 11946 11A42-11A43 11A9B-11A9C
11C41-11C42 11EF7-11EF8 11F43-11F44 16A6E-16A6F 16AF5 16B37-16B38 16B44 16D6E-16D6F 16E98 1BC9F
1DA88 Term=Terminal_Punctuation 21 2C 2E 3A-3B 3F 37E 387 589 5C3 60C 61B 61D-61F 6D4 700-70A 70C
7F8-7F9 830-835 837-83E 85E 964-965 E5A-E5B F08 F0D-F12 104A-104B 1361-1368 166E 16EB-16ED
1735-1736 17D4-17D6 17DA 1802-1805 1808-1809 1944-1945 1AA8-1AAB 1B4E-1B4F 1B5A-1B5B 1B5D-1B5F
1B7D-1B7F 1C3B-1C3F 1C7E-1C7F 2024 203C-203D 2047-2049 2CF9-2CFB 2E2E 2E3C 2E41 2E4C 2E4E-2E4F
2E53-2E54 3001-3002 A4FE-A4FF A60D-A60F A6F3-A6F7 A876-A877 A8CE-A8CF A92F A9C7-A9C9 AA5D-AA5F
AADF AAF0-AAF1 ABEB FE12 FE15-FE16 FE50-FE52 FE54-FE57 FF01 FF0C FF0E FF1A-FF1B FF1F FF61 FF64
1039F 103D0 10857 1091F 10A56-10A57 10AF0-10AF5 10B3A-10B3F 10B99-10B9C 10F55-10F59 10F86-10F89
11047-1104D 110BE-110C1 11141-11143 111C5-111C6 111CD 111DE-111DF 11238-1123C 112A9 113D4-113D5
1144B-1144D 1145A-1145B 115C2-115C5 115C9-115D7 11641-11642 1173C-1173E 11944 11946 11A42-11A43
11A9B-11A9C 11AA1-11AA2 11C41-11C43 11C71 11EF7-11EF8 11F43-11F44 12470-12474 16A6E-16A6F 16AF5
16B37-16B39 16B44 16D6E-16D6F 16E97-16E98 1BC9F 1DA87-1DA8A SD=Soft_Dotted 69-6A 12F 249 268 29D
2B2 3F3 456 458 1D62 1D96 1DA4 1DA8 1E2D 1ECB 2071 2148-2149 2C7C 1D422-1D423 1D456-1D457
1D48A-1D48B 1D4BE-1D4BF 1D4F2-1D4F3 1D526-1D527 1D55A-1D55B 1D58E-1D58F 1D5C2-1D5C3 1D5F6-1D5F7
1D62A-1D62B 1D65E-1D65F 1D692-1D693 1DF1A 1E04C-1E04D 1E068 Pat_WS=Pattern_White_Space 9-D 20 85
200E-200F 2028-2029 Pat_Syn=Pattern_Syntax 21-2F 3A-40 5B-5E 60 7B-7E A1-A7 A9 AB-AC AE B0-B1 B6
BB BF D7 F7 2010-2027 2030-203E 2041-2053 2055-205E 2190-245F 2500-2775 2794-2BFF 2E00-2E7F
3001-3003 3008-3020 3030 FD3E-FD3F FE45-FE46 Bidi_C=Bidi_Control 61C 200E-200F 202A-202E 2066-2069
Bidi_M=Bidi_Mirrored 28-29 3C 3E 5B 5D 7B 7D AB BB F3A-F3D 169B-169C 2039-203A 2045-2046 207D-207E
208D-208E 2140 2201-2204 2208-220D 2211 2215-2216 221A-221D 221F-2222 2224 2226 222B-2233 2239
223B-224C 2252-2255 225F-2260 2262 2264-226B 226D-228C 228F-2292 2298 22A2-22A3 22A6-22B8
22BE-22BF 22C9-22CD 22D0-22D1 22D6-22ED 22F0-22FF 2308-230B 2320-2321 2329-232A 2768-2775 27C0
27C3-27C6 27C8-27C9 27CB-27CD 27D3-27D6 27DC-27DE 27E2-27EF 2983-2998 299B-29A0 29A2-29AF 29B8
29C0-29C5 29C9 29CE-29D2 29D4-29D5 29D8-29DC 29E1 29E3-29E5 29E8-29E9 29F4-29F9 29FC-29FD
2A0A-2A1C 2A1E-2A21 2A24 2A26 2A29 2A2B-2A2E 2A34-2A35 2A3C-2A3E 2A57-2A58 2A64-2A65 2A6A-2A6D
2A6F-2A70 2A73-2A74 2A79-2AA3 2AA6-2AAD 2AAF-2AD6 2ADC 2ADE 2AE2-2AE6 2AEC-2AEE 2AF3 2AF7-2AFB
2AFD 2BFE 2E02-2E05 2E09-2E0A 2E0C-2E0D 2E1C-2E1D 2E20-2E29 2E55-2E5C 3008-3011 3014-301B
FE59-FE5E FE64-FE65 FF08-FF09 FF1C FF1E FF3B FF3D FF5B FF5D FF5F-FF60 FF62-FF63 1D6DB 1D715 1D74F
1D789 1D7C3 Radical=Radical 2E80-2E99 2E9B-2EF3 2F00-2FD5 Dep=Deprecated 149 673 F77 F79 17A3-17A4
206A-206F 2329-232A E0001 LOE=Logical_Order_Exception E40-E44 EC0-EC4 19B5-19B7 19BA AAB5-AAB6
AAB9 AABB-AABC IDSB=IDS_Binary_Operator 2FF0-2FF1 2FF4-2FFD 31EF IDST=IDS_Trinary_Operator
2FF2-2FF3"

def scriptTable : String := "
Adlm=Adlam 1E900-1E94B 1E950-1E959 1E95E-1E95F Aghb=Caucasian_Albanian 10530-10563 1056F Ahom=Ahom
11700-1171A 1171D-1172B 11730-11746 Arab=Arabic 600-604 606-60B 60D-61A 61C-61E 620-63F 641-64A
656-66F 671-6DC 6DE-6FF 750-77F 870-891 897-8E1 8E3-8FF FB50-FD3D FD40-FDCF FDF0-FDFF FE70-FE74
FE76-FEFC 10E60-10E7E 10EC2-10EC7 10ED0-10ED8 10EFA-10EFF 1EE00-1EE03 1EE05-1EE1F 1EE21-1EE22
1EE24 1EE27 1EE29-1EE32 1EE34-1EE37 1EE39 1EE3B 1EE42 1EE47 1EE49 1EE4B 1EE4D-1EE4F 1EE51-1EE52
1EE54 1EE57 1EE59 1EE5B 1EE5D 1EE5F 1EE61-1EE62 1EE64 1EE67-1EE6A 1EE6C-1EE72 1EE74-1EE77
1EE79-1EE7C 1EE7E 1EE80-1EE89 1EE8B-1EE9B 1EEA1-1EEA3 1EEA5-1EEA9 1EEAB-1EEBB 1EEF0-1EEF1
Armi=Imperial_Aramaic 10840-10855 10857-1085F Armn=Armenian 531-556 559-58A 58D-58F FB13-FB17
Avst=Avestan 10B00-10B35 10B39-10B3F Bali=Balinese 1B00-1B4C 1B4E-1B7F Bamu=Bamum A6A0-A6F7
16800-16A38 Bass=Bassa_Vah 16AD0-16AED 16AF0-16AF5 Batk=Batak 1BC0-1BF3 1BFC-1BFF Beng=Bengali
980-983 985-98C 98F-990 993-9A8 9AA-9B0 9B2 9B6-9B9 9BC-9C4 9C7-9C8 9CB-9CE 9D7 9DC-9DD 9DF-9E3
9E6-9FE Bhks=Bhaiksuki 11C00-11C08 11C0A-11C36 11C38-11C45 11C50-11C6C Bopo=Bopomofo 2EA-2EB
3105-312F 31A0-31BF Brah=Brahmi 11000-1104D 11052-11075 1107F Brai=Braille 2800-28FF Bugi=Buginese
1A00-1A1B 1A1E-1A1F Buhd=Buhid 1740-1753 Cakm=Chakma 11100-11134 11136-11147
Cans=Canadian_Aboriginal 1400-167F 18B0-18F5 11AB0-11ABF Cari=Carian 102A0-102D0 Cham=Cham
AA00-AA36 AA40-AA4D AA50-AA59 AA5C-AA5F Cher=Cherokee 13A0-13F5 13F8-13FD AB70-ABBF
Chrs=Chorasmian 10FB0-10FCB Copt=Coptic 3E2-3EF 2C80-2CF3 2CF9-2CFF Cpmn=Cypro_Minoan 12F90-12FF2
Cprt=Cypriot 10800-10805 10808 1080A-10835 10837-10838 1083C 1083F Cyrl=Cyrillic 400-484 487-52F
1C80-1C8A 1D2B 1D78 2DE0-2DFF A640-A69F FE2E-FE2F 1E030-1E06D 1E08F Deva=Devanagari 900-950
955-963 966-97F A8E0-A8FF 11B00-11B09 Diak=Dives_Akuru 11900-11906 11909 1190C-11913 11915-11916
11918-11935 11937-11938 1193B-11946 11950-11959 Dogr=Dogra 11800-1183B Dsrt=Deseret 10400-1044F
Dupl=Duployan 1BC00-1BC6A 1BC70-1BC7C 1BC80-1BC88 1BC90-1BC99 1BC9C-1BC9F
Egyp=Egyptian_Hieroglyphs 13000-13455 13460-143FA Elba=Elbasan 10500-10527 Elym=Elymaic
10FE0-10FF6 Ethi=Ethiopic 1200-1248 124A-124D 1250-1256 1258 125A-125D 1260-1288 128A-128D
1290-12B0 12B2-12B5 12B8-12BE 12C0 12C2-12C5 12C8-12D6 12D8-1310 1312-1315 1318-135A 135D-137C
1380-1399 2D80-2D96 2DA0-2DA6 2DA8-2DAE 2DB0-2DB6 2DB8-2DBE 2DC0-2DC6 2DC8-2DCE 2DD0-2DD6
2DD8-2DDE AB01-AB06 AB09-AB0E AB11-AB16 AB20-AB26 AB28-AB2E 1E7E0-1E7E6 1E7E8-1E7EB 1E7ED-1E7EE
1E7F0-1E7FE Geor=Georgian 10A0-10C5 10C7 10CD 10D0-10FA 10FC-10FF 1C90-1CBA 1CBD-1CBF 2D00-2D25
2D27 2D2D Glag=Glagolitic 2C00-2C5F 1E000-1E006 1E008-1E018 1E01B-1E021 1E023-1E024 1E026-1E02A
Gong=Gunjala_Gondi 11D60-11D65 11D67-11D68 11D6A-11D8E 11D90-11D91 11D93-11D98 11DA0-11DA9
Gonm=Masaram_Gondi 11D00-11D06 11D08-11D09 11D0B-11D36 11D3A 11D3C-11D3D 11D3F-11D47 11D50-11D59
Goth=Gothic 10330-1034A Gran=Grantha 11300-11303 11305-1130C 1130F-11310 11313-11328 1132A-11330
11332-11333 11335-11339 1133C-11344 11347-11348 1134B-1134D 11350 11357 1135D-11363 11366-1136C
11370-11374 Grek=Greek 370-373 375-377 37A-37D 37F 384 386 388-38A 38C 38E-3A1 3A3-3E1 3F0-3FF
1D26-1D2A 1D5D-1D61 1D66-1D6A 1DBF 1F00-1F15 1F18-1F1D 1F20-1F45 1F48-1F4D 1F50-1F57 1F59 1F5B
1F5D 1F5F-1F7D 1F80-1FB4 1FB6-1FC4 1FC6-1FD3 1FD6-1FDB 1FDD-1FEF 1FF2-1FF4 1FF6-1FFE 2126 AB65
10140-1018E 101A0 1D200-1D245 Gujr=Gujarati A81-A83 A85-A8D A8F-A91 A93-AA8 AAA-AB0 AB2-AB3
AB5-AB9 ABC-AC5 AC7-AC9 ACB-ACD AD0 AE0-AE3 AE6-AF1 AF9-AFF Guru=Gurmukhi A01-A03 A05-A0A A0F-A10
A13-A28 A2A-A30 A32-A33 A35-A36 A38-A39 A3C A3E-A42 A47-A48 A4B-A4D A51 A59-A5C A5E A66-A76
Hang=Hangul 1100-11FF 302E-302F 3131-318E 3200-321E 3260-327E A960-A97C AC00-D7A3 D7B0-D7C6
D7CB-D7FB FFA0-FFBE FFC2-FFC7 FFCA-FFCF FFD2-FFD7 FFDA-FFDC Hani=Han 2E80-2E99 2E9B-2EF3 2F00-2FD5
3005 3007 3021-3029 3038-303B 3400-4DBF 4E00-9FFF F900-FA6D FA70-FAD9 16FE2-16FE3 16FF0-16FF6
20000-2A6DF 2A700-2B81D 2B820-2CEAD 2CEB0-2EBE0 2EBF0-2EE5D 2F800-2FA1D 30000-3134A 31350-33479
Hano=Hanunoo 1720-1734 Hatr=Hatran 108E0-108F2 108F4-108F5 108FB-108FF Hebr=Hebrew 591-5C7 5D0-5EA
5EF-5F4 FB1D-FB36 FB38-FB3C FB3E FB40-FB41 FB43-FB44 FB46-FB4F Hira=Hiragana 3041-3096 309D-309F
1B001-1B11F 1B132 1B150-1B152 1F200 Hluw=Anatolian_Hieroglyphs 14400-14646 Hmng=Pahawh_Hmong
16B00-16B45 16B50-16B59 16B5B-16B61 16B63-16B77 16B7D-16B8F Hmnp=Nyiakeng_Puachue_Hmong
1E100-1E12C 1E130-1E13D 1E140-1E149 1E14E-1E14F Hung=Old_Hungarian 10C80-10CB2 10CC0-10CF2
10CFA-10CFF Ital=Old_Italic 10300-10323 1032D-1032F Java=Javanese A980-A9CD A9D0-A9D9 A9DE-A9DF
Kali=Kayah_Li A900-A92D A92F Kana=Katakana 30A1-30FA 30FD-30FF 31F0-31FF 32D0-32FE 3300-3357
FF66-FF6F FF71-FF9D 1AFF0-1AFF3 1AFF5-1AFFB 1AFFD-1AFFE 1B000 1B120-1B122 1B155 1B164-1B167
Kawi=Kawi 11F00-11F10 11F12-11F3A 11F3E-11F5A Khar=Kharoshthi 10A00-10A03 10A05-10A06 10A0C-10A13
10A15-10A17 10A19-10A35 10A38-10A3A 10A3F-10A48 10A50-10A58 Khmr=Khmer 1780-17DD 17E0-17E9
17F0-17F9 19E0-19FF Khoj=Khojki 11200-11211 11213-11241 Kits=Khitan_Small_Script 16FE4 18B00-18CD5
18CFF Knda=Kannada C80-C8C C8E-C90 C92-CA8 CAA-CB3 CB5-CB9 CBC-CC4 CC6-CC8 CCA-CCD CD5-CD6 CDC-CDE
CE0-CE3 CE6-CEF CF1-CF3 Kthi=Kaithi 11080-110C2 110CD Lana=Tai_Tham 1A20-1A5E 1A60-1A7C 1A7F-1A89
1A90-1A99 1AA0-1AAD Laoo=Lao E81-E82 E84 E86-E8A E8C-EA3 EA5 EA7-EBD EC0-EC4 EC6 EC8-ECE ED0-ED9
EDC-EDF Latn=Latin 41-5A 61-7A AA BA C0-D6 D8-F6 F8-2B8 2E0-2E4 1D00-1D25 1D2C-1D5C 1D62-1D65
1D6B-1D77 1D79-1DBE 1E00-1EFF 2071 207F 2090-209C 212A-212B 2132 214E 2160-2188 2C60-2C7F
A722-A787 A78B-A7DC A7F1-A7FF AB30-AB5A AB5C-AB64 AB66-AB69 FB00-FB06 FF21-FF3A FF41-FF5A
10780-10785 10787-107B0 107B2-107BA 1DF00-1DF1E 1DF25-1DF2A Lepc=Lepcha 1C00-1C37 1C3B-1C49
1C4D-1C4F Limb=Limbu 1900-191E 1920-192B 1930-193B 1940 1944-194F Lina=Linear_A 10600-10736
10740-10755 10760-10767 Linb=Linear_B 10000-1000B 1000D-10026 10028-1003A 1003C-1003D 1003F-1004D
10050-1005D 10080-100FA Lisu=Lisu A4D0-A4FF 11FB0 Lyci=Lycian 10280-1029C Lydi=Lydian 10920-10939
1093F Mahj=Mahajani 11150-11176 Maka=Makasar 11EE0-11EF8 Mand=Mandaic 840-85B 85E Mani=Manichaean
10AC0-10AE6 10AEB-10AF6 Marc=Marchen 11C70-11C8F 11C92-11CA7 11CA9-11CB6 Medf=Medefaidrin
16E40-16E9A Mend=Mende_Kikakui 1E800-1E8C4 1E8C7-1E8D6 Merc=Meroitic_Cursive 109A0-109B7
109BC-109CF 109D2-109FF Mero=Meroitic_Hieroglyphs 10980-1099F Mlym=Malayalam D00-D0C D0E-D10
D12-D44 D46-D48 D4A-D4F D54-D63 D66-D7F Modi=Modi 11600-11644 11650-11659 Mong=Mongolian 1800-1801
1804 1806-1819 1820-1878 1880-18AA 11660-1166C Mroo=Mro 16A40-16A5E 16A60-16A69 16A6E-16A6F
Mtei=Meetei_Mayek AAE0-AAF6 ABC0-ABED ABF0-ABF9 Mult=Multani 11280-11286 11288 1128A-1128D
1128F-1129D 1129F-112A9 Mymr=Myanmar 1000-109F A9E0-A9FE AA60-AA7F 116D0-116E3 Nagm=Nag_Mundari
1E4D0-1E4F9 Nand=Nandinagari 119A0-119A7 119AA-119D7 119DA-119E4 Narb=Old_North_Arabian
10A80-10A9F Nbat=Nabataean 10880-1089E 108A7-108AF Newa=Newa 11400-1145B 1145D-11461 Nkoo=Nko
7C0-7FA 7FD-7FF Nshu=Nushu 16FE1 1B170-1B2FB Ogam=Ogham 1680-169C Olck=Ol_Chiki 1C50-1C7F
Orkh=Old_Turkic 10C00-10C48 Orya=Oriya B01-B03 B05-B0C B0F-B10 B13-B28 B2A-B30 B32-B33 B35-B39
B3C-B44 B47-B48 B4B-B4D B55-B57 B5C-B5D B5F-B63 B66-B77 Osge=Osage 104B0-104D3 104D8-104FB
Osma=Osmanya 10480-1049D 104A0-104A9 Ougr=Old_Uyghur 10F70-10F89 Palm=Palmyrene 10860-1087F
Pauc=Pau_Cin_Hau 11AC0-11AF8 Perm=Old_Permic 10350-1037A Phag=Phags_Pa A840-A877
Phli=Inscriptional_Pahlavi 10B60-10B72 10B78-10B7F Phlp=Psalter_Pahlavi 10B80-10B91 10B99-10B9C
10BA9-10BAF Phnx=Phoenician 10900-1091B 1091F Plrd=Miao 16F00-16F4A 16F4F-16F87 16F8F-16F9F
Prti=Inscriptional_Parthian 10B40-10B55 10B58-10B5F Rjng=Rejang A930-A953 A95F
Rohg=Hanifi_Rohingya 10D00-10D27 10D30-10D39 Runr=Runic 16A0-16EA 16EE-16F8 Samr=Samaritan 800-82D
830-83E Sarb=Old_South_Arabian 10A60-10A7F Saur=Saurashtra A880-A8C5 A8CE-A8D9 Sgnw=SignWriting
1D800-1DA8B 1DA9B-1DA9F 1DAA1-1DAAF Shaw=Shavian 10450-1047F Shrd=Sharada 11180-111DF 11B60-11B67
Sidd=Siddham 11580-115B5 115B8-115DD Sind=Khudawadi 112B0-112EA 112F0-112F9 Sinh=Sinhala D81-D83
D85-D96 D9A-DB1 DB3-DBB DBD DC0-DC6 DCA DCF-DD4 DD6 DD8-DDF DE6-DEF DF2-DF4 111E1-111F4
Sogd=Sogdian 10F30-10F59 Sogo=Old_Sogdian 10F00-10F27 Sora=Sora_Sompeng 110D0-110E8 110F0-110F9
Soyo=Soyombo 11A50-11AA2 Sund=Sundanese 1B80-1BBF 1CC0-1CC7 Sylo=Syloti_Nagri A800-A82C
Syrc=Syriac 700-70D 70F-74A 74D-74F 860-86A Tagb=Tagbanwa 1760-176C 176E-1770 1772-1773 Takr=Takri
11680-116B9 116C0-116C9 Tale=Tai_Le 1950-196D 1970-1974 Talu=New_Tai_Lue 1980-19AB 19B0-19C9
19D0-19DA 19DE-19DF Taml=Tamil B82-B83 B85-B8A B8E-B90 B92-B95 B99-B9A B9C B9E-B9F BA3-BA4 BA8-BAA
BAE-BB9 BBE-BC2 BC6-BC8 BCA-BCD BD0 BD7 BE6-BFA 11FC0-11FF1 11FFF Tang=Tangut 16FE0 17000-18AFF
18D00-18D1E 18D80-18DF2 Tavt=Tai_Viet AA80-AAC2 AADB-AADF Telu=Telugu C00-C0C C0E-C10 C12-C28
C2A-C39 C3C-C44 C46-C48 C4A-C4D C55-C56 C58-C5A C5C-C5D C60-C63 C66-C6F C77-C7F Tfng=Tifinagh
2D30-2D67 2D6F-2D70 2D7F Tglg=Tagalog 1700-1715 171F Thaa=Thaana 780-7B1 Thai=Thai E01-E3A E40-E5B
Tibt=Tibetan F00-F47 F49-F6C F71-F97 F99-FBC FBE-FCC FCE-FD4 FD9-FDA Tirh=Tirhuta 11480-114C7
114D0-114D9 Tnsa=Tangsa 16A70-16ABE 16AC0-16AC9 Toto=Toto 1E290-1E2AE Ugar=Ugaritic 10380-1039D
1039F Vaii=Vai A500-A62B Vith=Vithkuqi 10570-1057A 1057C-1058A 1058C-10592 10594-10595 10597-105A1
105A3-105B1 105B3-105B9 105BB-105BC Wara=Warang_Citi 118A0-118F2 118FF Wcho=Wancho 1E2C0-1E2F9
1E2FF Xpeo=Old_Persian 103A0-103C3 103C8-103D5 Xsux=Cuneiform 12000-12399 12400-1246E 12470-12474
12480-12543 Yezi=Yezidi 10E80-10EA9 10EAB-10EAD 10EB0-10EB1 Yiii=Yi A000-A48C A490-A4C6
Zanb=Zanabazar_Square 11A00-11A47 Zinh=Inherited 300-36F 485-486 64B-655 670 951-954 1AB0-1ADD
1AE0-1AEB 1CD0-1CD2 1CD4-1CE0 1CE2-1CE8 1CED 1CF4 1CF8-1CF9 1DC0-1DFF 200C-200D 20D0-20F0
302A-302D 3099-309A FE00-FE0F FE20-FE2D 101FD 102E0 1133B 1CF00-1CF2D 1CF30-1CF46 1D167-1D169
1D17B-1D182 1D185-1D18B 1D1AA-1D1AD E0100-E01EF Zyyy=Common 0-40 5B-60 7B-A9 AB-B9 BB-BF D7 F7
2B9-2DF 2E5-2E9 2EC-2FF 374 37E 385 387 605 60C 61B 61F 640 6DD 8E2 964-965 E3F FD5-FD8 10FB
16EB-16ED 1735-1736 1802-1803 1805 1CD3 1CE1 1CE9-1CEC 1CEE-1CF3 1CF5-1CF7 1CFA 2000-200B
200E-2064 2066-2070 2074-207E 2080-208E 20A0-20C1 2100-2125 2127-2129 212C-2131 2133-214D
214F-215F 2189-218B 2190-2429 2440-244A 2460-27FF 2900-2B73 2B76-2BFF 2E00-2E5D 2FF0-3004 3006
3008-3020 3030-3037 303C-303F 309B-309C 30A0 30FB-30FC 3190-319F 31C0-31E5 31EF 3220-325F
327F-32CF 32FF 3358-33FF 4DC0-4DFF A700-A721 A788-A78A A830-A839 A92E A9CF AB5B AB6A-AB6B
FD3E-FD3F FE10-FE19 FE30-FE52 FE54-FE66 FE68-FE6B FEFF FF01-FF20 FF3B-FF40 FF5B-FF65 FF70
FF9E-FF9F FFE0-FFE6 FFE8-FFEE FFF9-FFFD 10100-10102 10107-10133 10137-1013F 10190-1019C
101D0-101FC 102E1-102FB 1BCA0-1BCA3 1CC00-1CCFC 1CD00-1CEB3 1CEBA-1CED0 1CEE0-1CEF0 1CF50-1CFC3
1D000-1D0F5 1D100-1D126 1D129-1D166 1D16A-1D17A 1D183-1D184 1D18C-1D1A9 1D1AE-1D1EA 1D2C0-1D2D3
1D2E0-1D2F3 1D300-1D356 1D360-1D378 1D400-1D454 1D456-1D49C 1D49E-1D49F 1D4A2 1D4A5-1D4A6
1D4A9-1D4AC 1D4AE-1D4B9 1D4BB 1D4BD-1D4C3 1D4C5-1D505 1D507-1D50A 1D50D-1D514 1D516-1D51C
1D51E-1D539 1D53B-1D53E 1D540-1D544 1D546 1D54A-1D550 1D552-1D6A5 1D6A8-1D7CB 1D7CE-1D7FF
1EC71-1ECB4 1ED01-1ED3D 1F000-1F02B 1F030-1F093 1F0A0-1F0AE 1F0B1-1F0BF 1F0C1-1F0CF 1F0D1-1F0F5
1F100-1F1AD 1F1E6-1F1FF 1F201-1F202 1F210-1F23B 1F240-1F248 1F250-1F251 1F260-1F265 1F300-1F6D8
1F6DC-1F6EC 1F6F0-1F6FC 1F700-1F7D9 1F7E0-1F7EB 1F7F0 1F800-1F80B 1F810-1F847 1F850-1F859
1F860-1F887 1F890-1F8AD 1F8B0-1F8BB 1F8C0-1F8C1 1F8D0-1F8D8 1F900-1FA57 1FA60-1FA6D 1FA70-1FA7C
1FA80-1FA8A 1FA8E-1FAC6 1FAC8 1FACD-1FADC 1FADF-1FAEA 1FAEF-1FAF8 1FB00-1FB92 1FB94-1FBFA E0001
E0020-E007F"

def readSets (table : String) : List (List Char × Array (Nat × Nat)) :=
  ((tableEntries table).foldl (fun sets e =>
    match sets with
    | (name, rs) :: rest =>
      if e.contains '=' then (e, #[]) :: (name, rs) :: rest
      else (name, rs.push (readRange e)) :: rest
    | [] => [(e, #[])]) [])

def sets : List (List Char × Array (Nat × Nat)) := readSets setTable
def scripts : List (List Char × Array (Nat × Nat)) := readSets scriptTable

def setOf? (table : List (List Char × Array (Nat × Nat))) (name : String) : Option Property :=
  (table.find? fun (names, _) => (splitAt (· == '=') names).contains name.toList).map fun s => .ranges s.2

def groups : List (String × String) := [
  ("L", "Letter"), ("M", "Mark"), ("M", "Combining_Mark"), ("N", "Number"), ("P", "Punctuation"),
  ("P", "punct"), ("S", "Symbol"), ("Z", "Separator"), ("C", "Other")]

def categoriesOf? (name : String) : Option Property :=
  match groups.find? fun (code, long) => code == name || long == name with
  | some (code, _) =>
    some (.categories ((Category.names.filter fun (_, c, _) => c.startsWith code).map Prod.fst))
  | none =>
    if name == "LC" || name == "Cased_Letter" then
      some (.categories [.uppercaseLetter, .lowercaseLetter, .titlecaseLetter])
    else if name == "digit" then some (.categories [.decimalNumber])
    else if name == "cntrl" then some (.categories [.control])
    else (Category.names.find? fun (_, code, long) => code == name || long == name).map
      fun (c, _) => .categories [c]

def plainNames : List (String × Property) := [
  ("Any", .any), ("ASCII", .ascii), ("Assigned", .assigned), ("Alphabetic", .alphabetic),
  ("Alpha", .alphabetic), ("Lowercase", .lowercase), ("Lower", .lowercase),
  ("Uppercase", .uppercase), ("Upper", .uppercase), ("Cased", .cased),
  ("Case_Ignorable", .caseIgnorable), ("CI", .caseIgnorable), ("ID_Start", .nameStart),
  ("IDS", .nameStart), ("XID_Start", .nameStart), ("XIDS", .nameStart), ("ID_Continue", .nameRest),
  ("IDC", .nameRest), ("XID_Continue", .nameRest), ("XIDC", .nameRest),
  ("ASCII_Hex_Digit", .ranges (readRanges "30-39 41-46 61-66")),
  ("AHex", .ranges (readRanges "30-39 41-46 61-66"))]

def ofName? : Option String → String → Option Property
  | none, name =>
    match categoriesOf? name, plainNames.lookup name with
    | some p, _ => some p
    | none, some p => some p
    | none, none => setOf? sets name
  | some key, name =>
    if key == "General_Category" || key == "gc" then categoriesOf? name
    else if ["Script", "sc", "Script_Extensions", "scx"].contains key then setOf? scripts name
    else none

end Property
end PagePreview.Text
