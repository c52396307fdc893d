import DocIndex.Unicode.Table

/-!
# Case folding

Full case folding: texts that differ in case alone have the same folding. Most characters fold to a
single one, and the table gives its distance; the others have a list of their own.
-/

namespace DocIndex.Unicode

/-- The code points that fold to another one at the distance written before them. -/
def foldingShifts : List (Int × String) := [
  (32, "
0041-005A 00C0-00D6 00D8-00DE 0391-03A1 03A3-03AB 0410-042F FF21-FF3A 118A0-118BF 16E40-16E5F"),
  (775, "00B5"),
  (1, "
0100-012E/2 0132-0136/2 0139-0147/2 014A-0176/2 0179-017D/2 0182 0184 0187 018B 0191 0198
01A0-01A4/2 01A7 01AC 01AF 01B3 01B5 01B8 01BC 01C5 01C8 01CB-01DB/2 01DE-01EE/2 01F2 01F4
01F8-021E/2 0222-0232/2 023B 0241 0246-024E/2 0370 0372 0376 03C2 03D8-03EE/2 03F7 03FA
0460-0480/2 048A-04BE/2 04C1-04CD/2 04D0-052E/2 1E00-1E94/2 1EA0-1EFE/2 2183 2C60 2C67-2C6B/2 2C72
2C75 2C80-2CE2/2 2CEB 2CED 2CF2 A640-A66C/2 A680-A69A/2 A722-A72E/2 A732-A76E/2 A779 A77B
A77E-A786/2 A78B A790 A792 A796-A7A8/2 A7B4-A7C2/2 A7C7 A7C9 A7D0 A7D6 A7D8 A7F5"),
  (-121, "0178"),
  (-268, "017F"),
  (210, "0181"),
  (206, "0186"),
  (205, "0189-018A 0193"),
  (79, "018E"),
  (202, "018F"),
  (203, "0190"),
  (207, "0194"),
  (211, "0196 019C"),
  (209, "0197"),
  (213, "019D"),
  (214, "019F"),
  (218, "01A6 01A9 01AE"),
  (217, "01B1-01B2"),
  (219, "01B7"),
  (2, "01C4 01C7 01CA 01F1"),
  (-97, "01F6"),
  (-56, "01F7"),
  (-130, "0220 03FD-03FF"),
  (10795, "023A"),
  (-163, "023D"),
  (10792, "023E"),
  (-195, "0243"),
  (69, "0244"),
  (71, "0245"),
  (116, "0345 037F"),
  (38, "0386"),
  (37, "0388-038A"),
  (64, "038C 10C80-10CB2"),
  (63, "038E-038F"),
  (8, "03CF"),
  (-30, "03D0"),
  (-25, "03D1"),
  (-15, "03D5"),
  (-22, "03D6"),
  (-54, "03F0"),
  (-48, "03F1 A7C4"),
  (-60, "03F4"),
  (-64, "03F5"),
  (-7, "03F9 1FEC"),
  (80, "0400-040F"),
  (15, "04C0"),
  (48, "0531-0556 2C00-2C2F"),
  (7264, "10A0-10C5 10C7 10CD"),
  (-8, "
13F8-13FD 1F08-1F0F 1F18-1F1D 1F28-1F2F 1F38-1F3F 1F48-1F4D 1F59-1F5F/2 1F68-1F6F 1FB8-1FB9
1FD8-1FD9 1FE8-1FE9"),
  (-6222, "1C80"),
  (-6221, "1C81"),
  (-6212, "1C82"),
  (-6210, "1C83-1C84"),
  (-6211, "1C85"),
  (-6204, "1C86"),
  (-6180, "1C87"),
  (35267, "1C88"),
  (-3008, "1C90-1CBA 1CBD-1CBF"),
  (-58, "1E9B"),
  (-74, "1FBA-1FBB"),
  (-7173, "1FBE"),
  (-86, "1FC8-1FCB"),
  (-100, "1FDA-1FDB"),
  (-112, "1FEA-1FEB"),
  (-128, "1FF8-1FF9"),
  (-126, "1FFA-1FFB"),
  (-7517, "2126"),
  (-8383, "212A"),
  (-8262, "212B"),
  (28, "2132"),
  (16, "2160-216F"),
  (26, "24B6-24CF"),
  (-10743, "2C62"),
  (-3814, "2C63"),
  (-10727, "2C64"),
  (-10780, "2C6D"),
  (-10749, "2C6E"),
  (-10783, "2C6F"),
  (-10782, "2C70"),
  (-10815, "2C7E-2C7F"),
  (-35332, "A77D"),
  (-42280, "A78D"),
  (-42308, "A7AA A7AE"),
  (-42319, "A7AB"),
  (-42315, "A7AC"),
  (-42305, "A7AD"),
  (-42258, "A7B0"),
  (-42282, "A7B1"),
  (-42261, "A7B2"),
  (928, "A7B3"),
  (-42307, "A7C5"),
  (-35384, "A7C6"),
  (-38864, "AB70-ABBF"),
  (40, "10400-10427 104B0-104D3"),
  (39, "10570-1057A 1057C-1058A 1058C-10592 10594-10595"),
  (34, "1E900-1E921")]

/-- The code points that fold to several ones, each followed by those. -/
def foldingExpansions : List (List Nat) := [
  [0x00DF, 0x0073, 0x0073], [0x0130, 0x0069, 0x0307], [0x0149, 0x02BC, 0x006E],
  [0x01F0, 0x006A, 0x030C], [0x0390, 0x03B9, 0x0308, 0x0301], [0x03B0, 0x03C5, 0x0308, 0x0301],
  [0x0587, 0x0565, 0x0582], [0x1E96, 0x0068, 0x0331], [0x1E97, 0x0074, 0x0308],
  [0x1E98, 0x0077, 0x030A], [0x1E99, 0x0079, 0x030A], [0x1E9A, 0x0061, 0x02BE],
  [0x1E9E, 0x0073, 0x0073], [0x1F50, 0x03C5, 0x0313], [0x1F52, 0x03C5, 0x0313, 0x0300],
  [0x1F54, 0x03C5, 0x0313, 0x0301], [0x1F56, 0x03C5, 0x0313, 0x0342], [0x1F80, 0x1F00, 0x03B9],
  [0x1F81, 0x1F01, 0x03B9], [0x1F82, 0x1F02, 0x03B9], [0x1F83, 0x1F03, 0x03B9],
  [0x1F84, 0x1F04, 0x03B9], [0x1F85, 0x1F05, 0x03B9], [0x1F86, 0x1F06, 0x03B9],
  [0x1F87, 0x1F07, 0x03B9], [0x1F88, 0x1F00, 0x03B9], [0x1F89, 0x1F01, 0x03B9],
  [0x1F8A, 0x1F02, 0x03B9], [0x1F8B, 0x1F03, 0x03B9], [0x1F8C, 0x1F04, 0x03B9],
  [0x1F8D, 0x1F05, 0x03B9], [0x1F8E, 0x1F06, 0x03B9], [0x1F8F, 0x1F07, 0x03B9],
  [0x1F90, 0x1F20, 0x03B9], [0x1F91, 0x1F21, 0x03B9], [0x1F92, 0x1F22, 0x03B9],
  [0x1F93, 0x1F23, 0x03B9], [0x1F94, 0x1F24, 0x03B9], [0x1F95, 0x1F25, 0x03B9],
  [0x1F96, 0x1F26, 0x03B9], [0x1F97, 0x1F27, 0x03B9], [0x1F98, 0x1F20, 0x03B9],
  [0x1F99, 0x1F21, 0x03B9], [0x1F9A, 0x1F22, 0x03B9], [0x1F9B, 0x1F23, 0x03B9],
  [0x1F9C, 0x1F24, 0x03B9], [0x1F9D, 0x1F25, 0x03B9], [0x1F9E, 0x1F26, 0x03B9],
  [0x1F9F, 0x1F27, 0x03B9], [0x1FA0, 0x1F60, 0x03B9], [0x1FA1, 0x1F61, 0x03B9],
  [0x1FA2, 0x1F62, 0x03B9], [0x1FA3, 0x1F63, 0x03B9], [0x1FA4, 0x1F64, 0x03B9],
  [0x1FA5, 0x1F65, 0x03B9], [0x1FA6, 0x1F66, 0x03B9], [0x1FA7, 0x1F67, 0x03B9],
  [0x1FA8, 0x1F60, 0x03B9], [0x1FA9, 0x1F61, 0x03B9], [0x1FAA, 0x1F62, 0x03B9],
  [0x1FAB, 0x1F63, 0x03B9], [0x1FAC, 0x1F64, 0x03B9], [0x1FAD, 0x1F65, 0x03B9],
  [0x1FAE, 0x1F66, 0x03B9], [0x1FAF, 0x1F67, 0x03B9], [0x1FB2, 0x1F70, 0x03B9],
  [0x1FB3, 0x03B1, 0x03B9], [0x1FB4, 0x03AC, 0x03B9], [0x1FB6, 0x03B1, 0x0342],
  [0x1FB7, 0x03B1, 0x0342, 0x03B9], [0x1FBC, 0x03B1, 0x03B9], [0x1FC2, 0x1F74, 0x03B9],
  [0x1FC3, 0x03B7, 0x03B9], [0x1FC4, 0x03AE, 0x03B9], [0x1FC6, 0x03B7, 0x0342],
  [0x1FC7, 0x03B7, 0x0342, 0x03B9], [0x1FCC, 0x03B7, 0x03B9], [0x1FD2, 0x03B9, 0x0308, 0x0300],
  [0x1FD3, 0x03B9, 0x0308, 0x0301], [0x1FD6, 0x03B9, 0x0342], [0x1FD7, 0x03B9, 0x0308, 0x0342],
  [0x1FE2, 0x03C5, 0x0308, 0x0300], [0x1FE3, 0x03C5, 0x0308, 0x0301], [0x1FE4, 0x03C1, 0x0313],
  [0x1FE6, 0x03C5, 0x0342], [0x1FE7, 0x03C5, 0x0308, 0x0342], [0x1FF2, 0x1F7C, 0x03B9],
  [0x1FF3, 0x03C9, 0x03B9], [0x1FF4, 0x03CE, 0x03B9], [0x1FF6, 0x03C9, 0x0342],
  [0x1FF7, 0x03C9, 0x0342, 0x03B9], [0x1FFC, 0x03C9, 0x03B9], [0xFB00, 0x0066, 0x0066],
  [0xFB01, 0x0066, 0x0069], [0xFB02, 0x0066, 0x006C], [0xFB03, 0x0066, 0x0066, 0x0069],
  [0xFB04, 0x0066, 0x0066, 0x006C], [0xFB05, 0x0073, 0x0074], [0xFB06, 0x0073, 0x0074],
  [0xFB13, 0x0574, 0x0576], [0xFB14, 0x0574, 0x0565], [0xFB15, 0x0574, 0x056B],
  [0xFB16, 0x057E, 0x0576], [0xFB17, 0x0574, 0x056D]]

/-- The distances at which characters fold. -/
def foldingTable : Table Int := Table.ofCodes foldingShifts

/-- The characters to which a character folds. -/
def foldCase (c : Char) : List Char :=
  match foldingTable.find? c with
  | some shift => [Char.ofNat (c.toNat + shift).toNat]
  | none =>
    match foldingExpansions.find? (·.head? == some c.toNat) with
    | some (_ :: expansion) => expansion.map Char.ofNat
    | _ => [c]

end DocIndex.Unicode
