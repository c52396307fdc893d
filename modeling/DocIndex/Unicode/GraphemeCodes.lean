import DocIndex.Unicode.Table

/-!
# Grapheme cluster classes

The code points of every class that the grapheme cluster rules tell apart. Hangul syllables with and
without a final consonant are told apart by arithmetic and have no list of their own.
-/

namespace DocIndex.Unicode.Grapheme

/-- Controls, format characters and separators, which stand alone; line ends are not among them. -/
def controlCodes : String := "
0000-0009 000B-000C 000E-001F 007F-009F 00AD 061C 180E 200B 200E-200F 2028-202E 2060-206F FEFF
FFF0-FFFB 13430-1343F 1BCA0-1BCA3 1D173-1D17A E0000-E001F E0080-E00FF E01F0-E0FFF"

/-- Marks and modifiers that extend the cluster before them. -/
def extendCodes : String := "
0300-036F 0483-0489 0591-05BD 05BF 05C1-05C2 05C4-05C5 05C7 0610-061A 064B-065F 0670 06D6-06DC
06DF-06E4 06E7-06E8 06EA-06ED 0711 0730-074A 07A6-07B0 07EB-07F3 07FD 0816-0819 081B-0823
0825-0827 0829-082D 0859-085B 0898-089F 08CA-08E1 08E3-0902 093A 093C 0941-0948 094D 0951-0957
0962-0963 0981 09BC 09BE 09C1-09C4 09CD 09D7 09E2-09E3 09FE 0A01-0A02 0A3C 0A41-0A42 0A47-0A48
0A4B-0A4D 0A51 0A70-0A71 0A75 0A81-0A82 0ABC 0AC1-0AC5 0AC7-0AC8 0ACD 0AE2-0AE3 0AFA-0AFF 0B01
0B3C 0B3E-0B3F 0B41-0B44 0B4D 0B55-0B57 0B62-0B63 0B82 0BBE 0BC0 0BCD 0BD7 0C00 0C04 0C3C
0C3E-0C40 0C46-0C48 0C4A-0C4D 0C55-0C56 0C62-0C63 0C81 0CBC 0CBF 0CC2 0CC6 0CCC-0CCD 0CD5-0CD6
0CE2-0CE3 0D00-0D01 0D3B-0D3C 0D3E 0D41-0D44 0D4D 0D57 0D62-0D63 0D81 0DCA 0DCF 0DD2-0DD4 0DD6
0DDF 0E31 0E34-0E3A 0E47-0E4E 0EB1 0EB4-0EBC 0EC8-0ECE 0F18-0F19 0F35-0F39/2 0F71-0F7E 0F80-0F84
0F86-0F87 0F8D-0F97 0F99-0FBC 0FC6 102D-1030 1032-1037 1039-103A 103D-103E 1058-1059 105E-1060
1071-1074 1082 1085-1086 108D 109D 135D-135F 1712-1714 1732-1733 1752-1753 1772-1773 17B4-17B5
17B7-17BD 17C6 17C9-17D3 17DD 180B-180D 180F 1885-1886 18A9 1920-1922 1927-1928 1932 1939-193B
1A17-1A18 1A1B 1A56 1A58-1A5E 1A60 1A62 1A65-1A6C 1A73-1A7C 1A7F 1AB0-1ACE 1B00-1B03 1B34-1B3A
1B3C 1B42 1B6B-1B73 1B80-1B81 1BA2-1BA5 1BA8-1BA9 1BAB-1BAD 1BE6 1BE8-1BE9 1BED 1BEF-1BF1
1C2C-1C33 1C36-1C37 1CD0-1CD2 1CD4-1CE0 1CE2-1CE8 1CED 1CF4 1CF8-1CF9 1DC0-1DFF 200C 20D0-20F0
2CEF-2CF1 2D7F 2DE0-2DFF 302A-302F 3099-309A A66F-A672 A674-A67D A69E-A69F A6F0-A6F1 A802 A806
A80B A825-A826 A82C A8C4-A8C5 A8E0-A8F1 A8FF A926-A92D A947-A951 A980-A982 A9B3 A9B6-A9B9
A9BC-A9BD A9E5 AA29-AA2E AA31-AA32 AA35-AA36 AA43 AA4C AA7C AAB0 AAB2-AAB4 AAB7-AAB8 AABE-AABF
AAC1 AAEC-AAED AAF6 ABE5 ABE8 ABED FB1E FE00-FE0F FE20-FE2F FF9E-FF9F 101FD 102E0 10376-1037A
10A01-10A03 10A05-10A06 10A0C-10A0F 10A38-10A3A 10A3F 10AE5-10AE6 10D24-10D27 10EAB-10EAC
10EFD-10EFF 10F46-10F50 10F82-10F85 11001 11038-11046 11070 11073-11074 1107F-11081 110B3-110B6
110B9-110BA 110C2 11100-11102 11127-1112B 1112D-11134 11173 11180-11181 111B6-111BE 111C9-111CC
111CF 1122F-11231 11234 11236-11237 1123E 11241 112DF 112E3-112EA 11300-11301 1133B-1133C 1133E
11340 11357 11366-1136C 11370-11374 11438-1143F 11442-11444 11446 1145E 114B0 114B3-114B8 114BA
114BD 114BF-114C0 114C2-114C3 115AF 115B2-115B5 115BC-115BD 115BF-115C0 115DC-115DD 11633-1163A
1163D 1163F-11640 116AB 116AD 116B0-116B5 116B7 1171D-1171F 11722-11725 11727-1172B 1182F-11837
11839-1183A 11930 1193B-1193C 1193E 11943 119D4-119D7 119DA-119DB 119E0 11A01-11A0A 11A33-11A38
11A3B-11A3E 11A47 11A51-11A56 11A59-11A5B 11A8A-11A96 11A98-11A99 11C30-11C36 11C38-11C3D 11C3F
11C92-11CA7 11CAA-11CB0 11CB2-11CB3 11CB5-11CB6 11D31-11D36 11D3A 11D3C-11D3D 11D3F-11D45 11D47
11D90-11D91 11D95 11D97 11EF3-11EF4 11F00-11F01 11F36-11F3A 11F40 11F42 13440 13447-13455
16AF0-16AF4 16B30-16B36 16F4F 16F8F-16F92 16FE4 1BC9D-1BC9E 1CF00-1CF2D 1CF30-1CF46 1D165
1D167-1D169 1D16E-1D172 1D17B-1D182 1D185-1D18B 1D1AA-1D1AD 1D242-1D244 1DA00-1DA36 1DA3B-1DA6C
1DA75 1DA84 1DA9B-1DA9F 1DAA1-1DAAF 1E000-1E006 1E008-1E018 1E01B-1E021 1E023-1E024 1E026-1E02A
1E08F 1E130-1E136 1E2AE 1E2EC-1E2EF 1E4EC-1E4EF 1E8D0-1E8D6 1E944-1E94A 1F3FB-1F3FF E0020-E007F
E0100-E01EF"

/-- Characters that belong to the cluster after them. -/
def prependCodes : String := "
0600-0605 06DD 070F 0890-0891 08E2 0D4E 110BD 110CD 111C2-111C3 1193F 11941 11A3A 11A84-11A89
11D46 11F02"

/-- Spacing marks that belong to the cluster before them. -/
def spacingMarkCodes : String := "
0903 093B 093E-0940 0949-094C 094E-094F 0982-0983 09BF-09C0 09C7-09C8 09CB-09CC 0A03 0A3E-0A40
0A83 0ABE-0AC0 0AC9 0ACB-0ACC 0B02-0B03 0B40 0B47-0B48 0B4B-0B4C 0BBF 0BC1-0BC2 0BC6-0BC8
0BCA-0BCC 0C01-0C03 0C41-0C44 0C82-0C83 0CBE 0CC0-0CC1 0CC3-0CC4 0CC7-0CC8 0CCA-0CCB 0CF3
0D02-0D03 0D3F-0D40 0D46-0D48 0D4A-0D4C 0D82-0D83 0DD0-0DD1 0DD8-0DDE 0DF2-0DF3 0E33 0EB3
0F3E-0F3F 0F7F 1031 103B-103C 1056-1057 1084 1715 1734 17B6 17BE-17C5 17C7-17C8 1923-1926
1929-192B 1930-1931 1933-1938 1A19-1A1A 1A55 1A57 1A6D-1A72 1B04 1B3B 1B3D-1B41 1B43-1B44 1B82
1BA1 1BA6-1BA7 1BAA 1BE7 1BEA-1BEC 1BEE 1BF2-1BF3 1C24-1C2B 1C34-1C35 1CE1 1CF7 A823-A824 A827
A880-A881 A8B4-A8C3 A952-A953 A983 A9B4-A9B5 A9BA-A9BB A9BE-A9C0 AA2F-AA30 AA33-AA34 AA4D AAEB
AAEE-AAEF AAF5 ABE3-ABE4 ABE6-ABE7 ABE9-ABEA ABEC 11000 11002 11082 110B0-110B2 110B7-110B8 1112C
11145-11146 11182 111B3-111B5 111BF-111C0 111CE 1122C-1122E 11232-11233 11235 112E0-112E2
11302-11303 1133F 11341-11344 11347-11348 1134B-1134D 11362-11363 11435-11437 11440-11441 11445
114B1-114B2 114B9 114BB-114BC 114BE 114C1 115B0-115B1 115B8-115BB 115BE 11630-11632 1163B-1163C
1163E 116AC 116AE-116AF 116B6 11726 1182C-1182E 11838 11931-11935 11937-11938 1193D 11940 11942
119D1-119D3 119DC-119DF 119E4 11A39 11A57-11A58 11A97 11C2F 11C3E 11CA9 11CB1 11CB4 11D8A-11D8E
11D93-11D94 11D96 11EF5-11EF6 11F03 11F34-11F35 11F3E-11F3F 11F41 16F51-16F87 16FF0-16FF1 1D166
1D16D"

/-- Leading consonants of Hangul syllables. -/
def leadingJamoCodes : String := "
1100-115F A960-A97C"

/-- Vowels of Hangul syllables. -/
def vowelJamoCodes : String := "
1160-11A7 D7B0-D7C6"

/-- Trailing consonants of Hangul syllables. -/
def trailingJamoCodes : String := "
11A8-11FF D7CB-D7FB"

/-- Emoji and other pictographs, reserved ones included. -/
def pictographicCodes : String := "
00A9 00AE 203C 2049 2122 2139 2194-2199 21A9-21AA 231A-231B 2328 2388 23CF 23E9-23F3 23F8-23FA
24C2 25AA-25AB 25B6 25C0 25FB-25FE 2600-2605 2607-2612 2614-2685 2690-2705 2708-2712 2714 2716
271D 2721 2728 2733-2734 2744 2747 274C 274E 2753-2755 2757 2763-2767 2795-2797 27A1 27B0 27BF
2934-2935 2B05-2B07 2B1B-2B1C 2B50 2B55 3030 303D 3297 3299 1F000-1F0FF 1F10D-1F10F 1F12F
1F16C-1F171 1F17E-1F17F 1F18E 1F191-1F19A 1F1AD-1F1E5 1F201-1F20F 1F21A 1F22F 1F232-1F23A
1F23C-1F23F 1F249-1F3FA 1F400-1F53D 1F546-1F64F 1F680-1F6FF 1F774-1F77F 1F7D5-1F7FF 1F80C-1F80F
1F848-1F84F 1F85A-1F85F 1F888-1F88F 1F8AE-1F8FF 1F90C-1F93A 1F93C-1F945 1F947-1FAFF 1FC00-1FFFD"

/-- Consonants that join into conjuncts. -/
def conjunctConsonantCodes : String := "
0915-0939 0958-095F 0978-097F 0995-09A8 09AA-09B0 09B2 09B6-09B9 09DC-09DD 09DF 09F0-09F1
0A95-0AA8 0AAA-0AB0 0AB2-0AB3 0AB5-0AB9 0AF9 0B15-0B28 0B2A-0B30 0B32-0B33 0B35-0B39 0B5C-0B5D
0B5F 0B71 0C15-0C28 0C2A-0C39 0C58-0C5A 0D15-0D3A"

/-- Signs that link two consonants into a conjunct. -/
def conjunctLinkerCodes : String := "
094D 09CD 0ACD 0B4D 0C4D 0D4D"

/-- Marks that may stand between a consonant and its linker. -/
def conjunctExtenderCodes : String := "
0300-034E 0350-036F 0483-0487 0591-05BD 05BF 05C1-05C2 05C4-05C5 05C7 0610-061A 064B-065F 0670
06D6-06DC 06DF-06E4 06E7-06E8 06EA-06ED 0711 0730-074A 07EB-07F3 07FD 0816-0819 081B-0823
0825-0827 0829-082D 0859-085B 0898-089F 08CA-08E1 08E3-08FF 093C 0951-0954 09BC 09FE 0A3C 0A4D
0ABC 0B3C 0BCD 0C3C 0C55-0C56 0CBC 0CCD 0D3B-0D3C 0DCA 0E38-0E3A 0E48-0E4B 0EB8-0EBA 0EC8-0ECB
0F18-0F19 0F35-0F39/2 0F71-0F72 0F74 0F7A-0F7D 0F80 0F82-0F84 0F86-0F87 0FC6 1037 1039-103A 108D
135D-135F 1714 17D2 17DD 18A9 1939-193B 1A17-1A18 1A60 1A75-1A7C 1A7F 1AB0-1ABD 1ABF-1ACE 1B34
1B6B-1B73 1BAB 1BE6 1C37 1CD0-1CD2 1CD4-1CE0 1CE2-1CE8 1CED 1CF4 1CF8-1CF9 1DC0-1DFF 200D
20D0-20DC 20E1 20E5-20F0 2CEF-2CF1 2D7F 2DE0-2DFF 302A-302F 3099-309A A66F A674-A67D A69E-A69F
A6F0-A6F1 A806 A82C A8C4 A8E0-A8F1 A92B-A92D A9B3 AAB0 AAB2-AAB4 AAB7-AAB8 AABE-AABF AAC1 AAF6
ABED FB1E FE20-FE2F 101FD 102E0 10376-1037A 10A0D 10A0F 10A38-10A3A 10A3F 10AE5-10AE6 10D24-10D27
10EAB-10EAC 10EFD-10EFF 10F46-10F50 10F82-10F85 11046 11070 1107F 110B9-110BA 11100-11102
11133-11134 11173 111CA 11236 112E9-112EA 1133B-1133C 11366-1136C 11370-11374 11442 11446 1145E
114C2-114C3 115BF-115C0 1163F 116B7 1172B 11839-1183A 1193E 11943 119E0 11A34 11A47 11A99 11C3F
11D42 11D44-11D45 11D97 11F42 16AF0-16AF4 16B30-16B36 1BC9E 1D165 1D167-1D169 1D16E-1D172
1D17B-1D182 1D185-1D18B 1D1AA-1D1AD 1D242-1D244 1E000-1E006 1E008-1E018 1E01B-1E021 1E023-1E024
1E026-1E02A 1E08F 1E130-1E136 1E2AE 1E2EC-1E2EF 1E4EC-1E4EF 1E8D0-1E8D6 1E944-1E94A"

end DocIndex.Unicode.Grapheme
