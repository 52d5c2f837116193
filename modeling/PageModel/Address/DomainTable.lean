import PageModel.Unicode.Category

/-!
# Characters of domain names

What becomes of a character in a domain name: some are refused, some are dropped, some stand for
ASCII characters or for another character. In a label some characters cannot come first, and the
joiners need certain neighbours.
-/

namespace PageModel.Address

open Unicode (RangeTable)

/-- The characters that are refused, unassigned ones and those for private use apart. -/
def refusedTable : RangeTable :=
  .ofRows
    ["80-A0 A8 AF B4 B8 2D8-2DD 37A 384-385 600-605 61C 6DD 70F 890-891 8E2 1680 1806 1FBD",
     "1FBF-1FC1 1FCD-1FCF 1FDD-1FDF 1FED-1FEE 1FFD-1FFE 2000-200A 200E-200F 2017 2024-2026",
     "2028-202F 203E 2047-2049 205F 2066-206F 2100-2101 2105-2106 2488-249B 2A74 2FF0-2FFB 3000",
     "309B-309C 33C2 33C7 33D8 FC5E-FC63 FDFA-FDFB FE12-FE13 FE16 FE19 FE30 FE47-FE4C FE52",
     "FE55-FE56 FE5F FE64-FE65 FE68 FE6A-FE6B FE70 FE72 FE74 FE76 FE78 FE7A FE7C FE7E FF03 FF05",
     "FF0F FF1A FF1C FF1E-FF20 FF3B-FF3E FF5C FFE3 FFF9-FFFD 110BD 110CD 13430-13438",
     "1D173-1D17A 1F100 E0001 E0020-E007F"]

/-- The characters that are dropped. -/
def droppedTable : RangeTable :=
  .ofRows
    ["AD 34F 115F-1160 17B4-17B5 180B-180F 200B 2060-2064 3164 FE00-FE0F FEFF FFA0 1BCA0-1BCA3",
     "E0100-E01EF"]

/-- The characters that stand for other characters. -/
def mappedTable : RangeTable :=
  .ofRows
    ["AA B2-B3 B5 B9-BA BC-BE C0-D6 D8-DE 100 102 104 106 108 10A 10C 10E 110 112 114 116 118",
     "11A 11C 11E 120 122 124 126 128 12A 12C 12E 130 132-134 136 139 13B 13D 13F-141 143 145",
     "147 149-14A 14C 14E 150 152 154 156 158 15A 15C 15E 160 162 164 166 168 16A 16C 16E 170",
     "172 174 176 178-179 17B 17D 17F 181-182 184 186-187 189-18B 18E-191 193-194 196-198",
     "19C-19D 19F-1A0 1A2 1A4 1A6-1A7 1A9 1AC 1AE-1AF 1B1-1B3 1B5 1B7-1B8 1BC 1C4-1CD 1CF 1D1",
     "1D3 1D5 1D7 1D9 1DB 1DE 1E0 1E2 1E4 1E6 1E8 1EA 1EC 1EE 1F1-1F4 1F6-1F8 1FA 1FC 1FE 200",
     "202 204 206 208 20A 20C 20E 210 212 214 216 218 21A 21C 21E 220 222 224 226 228 22A 22C",
     "22E 230 232 23A-23B 23D-23E 241 243-246 248 24A 24C 24E 2B0-2B8 2E0-2E4 307 323 331",
     "340-341 343-345 370 372 374 376 37E-37F 386-38A 38C 38E-38F 391-3A1 3A3-3AB 3CF-3D6 3D8",
     "3DA 3DC 3DE 3E0 3E2 3E4 3E6 3E8 3EA 3EC 3EE 3F0-3F2 3F4-3F5 3F7 3F9-3FA 3FD-42F 460 462",
     "464 466 468 46A 46C 46E 470 472 474 476 478 47A 47C 47E 480 48A 48C 48E 490 492 494 496",
     "498 49A 49C 49E 4A0 4A2 4A4 4A6 4A8 4AA 4AC 4AE 4B0 4B2 4B4 4B6 4B8 4BA 4BC 4BE 4C0-4C1",
     "4C3 4C5 4C7 4C9 4CB 4CD 4D0 4D2 4D4 4D6 4D8 4DA 4DC 4DE 4E0 4E2 4E4 4E6 4E8 4EA 4EC 4EE",
     "4F0 4F2 4F4 4F6 4F8 4FA 4FC 4FE 500 502 504 506 508 50A 50C 50E 510 512 514 516 518 51A",
     "51C 51E 520 522 524 526 528 52A 52C 52E 531-556 587 675-678 958-95F 9DC-9DD 9DF A33 A36",
     "A59-A5B A5E B5C-B5D E33 EB3 EDC-EDD F0C F43 F4D F52 F57 F5C F69 F73 F75-F79 F81 F93 F9D",
     "FA2 FA7 FAC FB9 10A0-10C5 10C7 10CD 10FC 13F8-13FD 1C80-1C88 1C90-1CBA 1CBD-1CBF",
     "1D2C-1D2E 1D30-1D3A 1D3C-1D4D 1D4F-1D6A 1D78 1D9B-1DBF 1E00 1E02 1E04 1E06 1E08 1E0A 1E0C",
     "1E0E 1E10 1E12 1E14 1E16 1E18 1E1A 1E1C 1E1E 1E20 1E22 1E24 1E26 1E28 1E2A 1E2C 1E2E 1E30",
     "1E32 1E34 1E36 1E38 1E3A 1E3C 1E3E 1E40 1E42 1E44 1E46 1E48 1E4A 1E4C 1E4E 1E50 1E52 1E54",
     "1E56 1E58 1E5A 1E5C 1E5E 1E60 1E62 1E64 1E66 1E68 1E6A 1E6C 1E6E 1E70 1E72 1E74 1E76 1E78",
     "1E7A 1E7C 1E7E 1E80 1E82 1E84 1E86 1E88 1E8A 1E8C 1E8E 1E90 1E92 1E94 1E9A-1E9B 1E9E 1EA0",
     "1EA2 1EA4 1EA6 1EA8 1EAA 1EAC 1EAE 1EB0 1EB2 1EB4 1EB6 1EB8 1EBA 1EBC 1EBE 1EC0 1EC2 1EC4",
     "1EC6 1EC8 1ECA 1ECC 1ECE 1ED0 1ED2 1ED4 1ED6 1ED8 1EDA 1EDC 1EDE 1EE0 1EE2 1EE4 1EE6 1EE8",
     "1EEA 1EEC 1EEE 1EF0 1EF2 1EF4 1EF6 1EF8 1EFA 1EFC 1EFE 1F08-1F0F 1F18-1F1D 1F28-1F2F",
     "1F38-1F3F 1F48-1F4D 1F59 1F5B 1F5D 1F5F 1F68-1F6F 1F71 1F73 1F75 1F77 1F79 1F7B 1F7D",
     "1F80-1FAF 1FB2-1FB4 1FB7-1FBC 1FBE 1FC2-1FC4 1FC7-1FCC 1FD3 1FD8-1FDB 1FE3 1FE8-1FEC 1FEF",
     "1FF2-1FF4 1FF7-1FFC 2011 2033-2034 2036-2037 203C 2057 2070-2071 2074-208E 2090-209C 20A8",
     "2102-2103 2107 2109-2113 2115-2116 2119-211D 2120-2122 2124 2126 2128 212A-212D 212F-2139",
     "213B-2140 2145-2149 2150-217F 2183 2189 222C-222D 222F-2230 2329-232A 2460-2487 249C-24EA",
     "2A0C 2A75-2A76 2ADC 2C00-2C2F 2C60 2C62-2C64 2C67 2C69 2C6B 2C6D-2C70 2C72 2C75 2C7C-2C80",
     "2C82 2C84 2C86 2C88 2C8A 2C8C 2C8E 2C90 2C92 2C94 2C96 2C98 2C9A 2C9C 2C9E 2CA0 2CA2 2CA4",
     "2CA6 2CA8 2CAA 2CAC 2CAE 2CB0 2CB2 2CB4 2CB6 2CB8 2CBA 2CBC 2CBE 2CC0 2CC2 2CC4 2CC6 2CC8",
     "2CCA 2CCC 2CCE 2CD0 2CD2 2CD4 2CD6 2CD8 2CDA 2CDC 2CDE 2CE0 2CE2 2CEB 2CED 2CF2 2D6F 2E9F",
     "2EF3 2F00-2FD5 3002 3036 3038-303A 309F 30FF 3131-3163 3165-318E 3192-319F 3200-321E",
     "3220-3247 3250-327E 3280-33C1 33C3-33C6 33C8-33D7 33D9-33FF A640 A642 A644 A646 A648 A64A",
     "A64C A64E A650 A652 A654 A656 A658 A65A A65C A65E A660 A662 A664 A666 A668 A66A A66C A680",
     "A682 A684 A686 A688 A68A A68C A68E A690 A692 A694 A696 A698 A69A A69C-A69D A722 A724 A726",
     "A728 A72A A72C A72E A732 A734 A736 A738 A73A A73C A73E A740 A742 A744 A746 A748 A74A A74C",
     "A74E A750 A752 A754 A756 A758 A75A A75C A75E A760 A762 A764 A766 A768 A76A A76C A76E A770",
     "A779 A77B A77D-A77E A780 A782 A784 A786 A78B A78D A790 A792 A796 A798 A79A A79C A79E A7A0",
     "A7A2 A7A4 A7A6 A7A8 A7AA-A7AE A7B0-A7B4 A7B6 A7B8 A7BA A7BC A7BE A7C0 A7C2 A7C4-A7C7 A7C9",
     "A7D0 A7D6 A7D8 A7F2-A7F5 A7F8-A7F9 AB5C-AB5F AB69 AB70-ABBF F900-FA0D FA10 FA12 FA15-FA1E",
     "FA20 FA22 FA25-FA26 FA2A-FA6D FA70-FAD9 FB00-FB06 FB13-FB17 FB1D FB1F-FB36 FB38-FB3C FB3E",
     "FB40-FB41 FB43-FB44 FB46-FBB1 FBD3-FC5D FC64-FD3D FD50-FD8F FD92-FDC7 FDF0-FDF9 FDFC",
     "FE10-FE11 FE14-FE15 FE17-FE18 FE31-FE44 FE4D-FE51 FE54 FE57-FE5E FE60-FE63 FE66 FE69 FE71",
     "FE77 FE79 FE7B FE7D FE7F-FEFC FF01-FF02 FF04 FF06-FF0E FF10-FF19 FF1B FF1D FF21-FF3A",
     "FF3F-FF5B FF5D-FF9F FFA1-FFBE FFC2-FFC7 FFCA-FFCF FFD2-FFD7 FFDA-FFDC FFE0-FFE2 FFE4-FFE6",
     "FFE8-FFEE 10400-10427 104B0-104D3 10570-1057A 1057C-1058A 1058C-10592 10594-10595",
     "10781-10785 10787-107B0 107B2-107BA 10C80-10CB2 118A0-118BF 16E40-16E5F 1D15E-1D164",
     "1D1BB-1D1C0 1D400-1D454 1D456-1D49C 1D49E-1D49F 1D4A2 1D4A5-1D4A6 1D4A9-1D4AC 1D4AE-1D4B9",
     "1D4BB 1D4BD-1D4C3 1D4C5-1D505 1D507-1D50A 1D50D-1D514 1D516-1D51C 1D51E-1D539 1D53B-1D53E",
     "1D540-1D544 1D546 1D54A-1D550 1D552-1D6A5 1D6A8-1D7CB 1D7CE-1D7FF 1E030-1E06D 1E900-1E921",
     "1EE00-1EE03 1EE05-1EE1F 1EE21-1EE22 1EE24 1EE27 1EE29-1EE32 1EE34-1EE37 1EE39 1EE3B 1EE42",
     "1EE47 1EE49 1EE4B 1EE4D-1EE4F 1EE51-1EE52 1EE54 1EE57 1EE59 1EE5B 1EE5D 1EE5F 1EE61-1EE62",
     "1EE64 1EE67-1EE6A 1EE6C-1EE72 1EE74-1EE77 1EE79-1EE7C 1EE7E 1EE80-1EE89 1EE8B-1EE9B",
     "1EEA1-1EEA3 1EEA5-1EEA9 1EEAB-1EEBB 1F101-1F10A 1F110-1F12E 1F130-1F14F 1F16A-1F16C 1F190",
     "1F200-1F202 1F210-1F23B 1F240-1F248 1F250-1F251 1FBF0-1FBF9 2F800-2F867 2F869-2F873",
     "2F875-2F91E 2F920-2F95E 2F960-2F9BE 2F9C0-2FA1D"]

/-- The characters that are no marks, but stand for characters with a mark in front. -/
def markedTable : RangeTable :=
  .ofRows
    ["E33 EB3 FF9E-FF9F"]

/-- The viramas, which may stand before a joiner. -/
def viramaTable : RangeTable :=
  .ofRows
    ["94D 9CD A4D ACD B4D BCD C4D CCD D3B-D3C D4D DCA E3A EBA F84 1039-103A 1714-1715 1734 17D2",
     "1A60 1B44 1BAA-1BAB 1BF2-1BF3 2D7F A806 A82C A8C4 A953 A9C0 AAF6 ABED 10A3F 11046 11070",
     "1107F 110B9 11133-11134 111C0 11235 112EA 1134D 11442 114C2 115BF 1163F 116B6 1172B 11839",
     "1193D-1193E 119E0 11A34 11A47 11A99 11C3F 11D44-11D45 11D97"]

/-- The characters that join the one after them. -/
def joinsNextTable : RangeTable :=
  .ofRows
    ["620 626 628 62A-62E 633-63F 641-647 649-64A 66E-66F 678-687 69A-6BF 6C1-6C2 6CC 6CE",
     "6D0-6D1 6FA-6FC 6FF 712-714 71A-71D 71F-727 729 72B 72D-72E 74E-758 75C-766 850-853 855",
     "8A0 8A2-8A9 1807 1820-1877 1887-18A8 18AA A840-A872 FB52-FB81 FB8E-FBA3 FBA6-FBAD",
     "FBD3-FBD6 FBE4-FC5A FC5D FC64-FCF1 FCF5-FD3B FD50-FD8F FD92-FDC7 FDF0-FDF9 FDFC FE89-FE8C",
     "FE8F-FE92 FE95-FEA8 FEB1-FEEC FEEF-FEFC 1EE01-1EE02 1EE07-1EE12 1EE14-1EE17 1EE19-1EE1F",
     "1EE21-1EE22 1EE24 1EE27 1EE29-1EE32 1EE34-1EE37 1EE39 1EE3B 1EE42 1EE47 1EE49 1EE4B",
     "1EE4D-1EE4F 1EE51-1EE52 1EE54 1EE57 1EE59 1EE5B 1EE5D 1EE5F 1EE61-1EE62 1EE64 1EE67-1EE6A",
     "1EE6C-1EE72 1EE74-1EE77 1EE79-1EE7C 1EE7E 1EE81-1EE82 1EE84 1EE87-1EE89 1EE8B-1EE92",
     "1EE94-1EE97 1EE99-1EE9B 1EEA1-1EEA2 1EEA7-1EEA9 1EEAB-1EEB2 1EEB4-1EEB7 1EEB9-1EEBB"]

/-- The characters that join the one before them. -/
def joinsPreviousTable : RangeTable :=
  .ofRows
    ["620 622-63F 641-64A 66E-66F 671-673 675-6D3 6D5 6EE-6EF 6FA-6FC 6FF 710 712-72F 74D-766",
     "850-855 8A0 8A2-8AC 1807 1820-1877 1887-18A8 18AA A840-A871 FB50-FBB1 FBD3-FC5D FC64-FCF1",
     "FCF5-FD3D FD50-FD8F FD92-FDC7 FDF0-FDF9 FDFC FE81-FEFC 1EE00-1EE03 1EE05-1EE1F",
     "1EE21-1EE22 1EE24 1EE27 1EE29-1EE32 1EE34-1EE37 1EE39 1EE3B 1EE42 1EE47 1EE49 1EE4B",
     "1EE4D-1EE4F 1EE51-1EE52 1EE54 1EE57 1EE59 1EE5B 1EE5D 1EE5F 1EE61-1EE62 1EE64 1EE67-1EE6A",
     "1EE6C-1EE72 1EE74-1EE77 1EE79-1EE7C 1EE7E 1EE80-1EE89 1EE8B-1EE9B 1EEA1-1EEA3 1EEA5-1EEA9",
     "1EEAB-1EEBB"]

/-- Runs of characters that stand for one ASCII character each: the first of the run, and the
ASCII characters. -/
def asciiRuns : List (Nat × String) :=
  [(0xAA, "a"), (0xB2, "23"), (0xB9, "1o"), (0x17F, "s"), (0x2B0, "h"), (0x2B2, "jr"),
   (0x2B7, "wy"), (0x2E1, "lsx"), (0x37E, ";"), (0x1D2C, "a"), (0x1D2E, "b"), (0x1D30, "de"),
   (0x1D33, "ghijklmn"), (0x1D3C, "o"), (0x1D3E, "prtuwa"), (0x1D47, "bde"), (0x1D4D, "g"),
   (0x1D4F, "km"), (0x1D52, "o"), (0x1D56, "ptu"), (0x1D5B, "v"), (0x1D62, "iruv"),
   (0x1D9C, "c"), (0x1DA0, "f"), (0x1DBB, "z"), (0x1FEF, "\x60"), (0x2070, "0i"),
   (0x2074, "456789+"), (0x207C, "=()n0123456789+"), (0x208C, "=()"), (0x2090, "aeox"),
   (0x2095, "hklmnpst"), (0x2102, "c"), (0x210A, "ghhhh"), (0x2110, "iill"), (0x2115, "n"),
   (0x2119, "pqrrr"), (0x2124, "z"), (0x2128, "z"), (0x212A, "k"), (0x212C, "bc"),
   (0x212F, "eef"), (0x2133, "mo"), (0x2139, "i"), (0x2145, "ddeij"), (0x2160, "i"),
   (0x2164, "v"), (0x2169, "x"), (0x216C, "lcdmi"), (0x2174, "v"), (0x2179, "x"),
   (0x217C, "lcdm"), (0x2460, "123456789"),
   (0x24B6, "abcdefghijklmnopqrstuvwxyzabcdefghijklmnopqrstuvwxyz0"), (0x2C7C, "jv"),
   (0x3002, "."), (0xA7F2, "cfq"), (0xFB29, "+"), (0xFE10, ","), (0xFE14, ";!"),
   (0xFE33, "__()\x7b\x7d"), (0xFE4D, "___,"), (0xFE54, ";"), (0xFE57, "!"),
   (0xFE59, "()\x7b\x7d"), (0xFE60, "&*+-"), (0xFE66, "="), (0xFE69, "$"), (0xFF01, "!\""),
   (0xFF04, "$"), (0xFF06, "&'()*+,-."), (0xFF10, "0123456789"), (0xFF1B, ";"), (0xFF1D, "="),
   (0xFF21, "abcdefghijklmnopqrstuvwxyz"), (0xFF3F, "_\x60abcdefghijklmnopqrstuvwxyz\x7b"),
   (0xFF5D, "\x7d~"), (0xFF61, "."), (0x107A5, "q"),
   (0x1D400, "abcdefghijklmnopqrstuvwxyzabcdefghijklmnopqrstuvwxyzabcdefghijklmnopqr"),
   (0x1D446, "stuvwxyzabcdefg"),
   (0x1D456, "ijklmnopqrstuvwxyzabcdefghijklmnopqrstuvwxyzabcdefghijklmnopqrstuvwxyz"),
   (0x1D49C, "a"), (0x1D49E, "cd"), (0x1D4A2, "g"), (0x1D4A5, "jk"), (0x1D4A9, "nopq"),
   (0x1D4AE, "stuvwxyzabcd"), (0x1D4BB, "f"), (0x1D4BD, "hijklmn"),
   (0x1D4C5, "pqrstuvwxyzabcdefghijklmnopqrstuvwxyzabcdefghijklmnopqrstuvwxyzab"),
   (0x1D507, "defg"), (0x1D50D, "jklmnopq"), (0x1D516, "stuvwxy"),
   (0x1D51E, "abcdefghijklmnopqrstuvwxyzab"), (0x1D53B, "defg"), (0x1D540, "ijklm"),
   (0x1D546, "o"), (0x1D54A, "stuvwxy"),
   (0x1D552, "abcdefghijklmnopqrstuvwxyzabcdefghijklmnopqrstuvwxyzabcdefghijklmnopqr"),
   (0x1D598, "stuvwxyzabcdefghijklmnopqrstuvwxyzabcdefghijklmnopqrstuvwxyzabcdefghij"),
   (0x1D5DE, "klmnopqrstuvwxyzabcdefghijklmnopqrstuvwxyzabcdefghijklmnopqrstuvwxyzab"),
   (0x1D624, "cdefghijklmnopqrstuvwxyzabcdefghijklmnopqrstuvwxyzabcdefghijklmnopqrst"),
   (0x1D66A, "uvwxyzabcdefghijklmnopqrstuvwxyzabcdefghijklmnopqrstuvwxyz"),
   (0x1D7CE, "01234567890123456789012345678901234567890123456789"), (0x1F12B, "cr"),
   (0x1F130, "abcdefghijklmnopqrstuvwxyz"), (0x1FBF0, "0123456789")]

/-- The characters that stand for several ASCII characters, with these. -/
def asciiSpellings : List (Nat × String) :=
  [(0x132, "ij"), (0x133, "ij"), (0x1C7, "lj"), (0x1C8, "lj"), (0x1C9, "lj"), (0x1CA, "nj"),
   (0x1CB, "nj"), (0x1CC, "nj"), (0x1F1, "dz"), (0x1F2, "dz"), (0x1F3, "dz"), (0x1E9E, "ss"),
   (0x203C, "!!"), (0x20A8, "rs"), (0x2116, "no"), (0x2120, "sm"), (0x2121, "tel"),
   (0x2122, "tm"), (0x213B, "fax"), (0x2161, "ii"), (0x2162, "iii"), (0x2163, "iv"),
   (0x2165, "vi"), (0x2166, "vii"), (0x2167, "viii"), (0x2168, "ix"), (0x216A, "xi"),
   (0x216B, "xii"), (0x2171, "ii"), (0x2172, "iii"), (0x2173, "iv"), (0x2175, "vi"),
   (0x2176, "vii"), (0x2177, "viii"), (0x2178, "ix"), (0x217A, "xi"), (0x217B, "xii"),
   (0x2469, "10"), (0x246A, "11"), (0x246B, "12"), (0x246C, "13"), (0x246D, "14"),
   (0x246E, "15"), (0x246F, "16"), (0x2470, "17"), (0x2471, "18"), (0x2472, "19"),
   (0x2473, "20"), (0x2474, "(1)"), (0x2475, "(2)"), (0x2476, "(3)"), (0x2477, "(4)"),
   (0x2478, "(5)"), (0x2479, "(6)"), (0x247A, "(7)"), (0x247B, "(8)"), (0x247C, "(9)"),
   (0x247D, "(10)"), (0x247E, "(11)"), (0x247F, "(12)"), (0x2480, "(13)"), (0x2481, "(14)"),
   (0x2482, "(15)"), (0x2483, "(16)"), (0x2484, "(17)"), (0x2485, "(18)"), (0x2486, "(19)"),
   (0x2487, "(20)"), (0x249C, "(a)"), (0x249D, "(b)"), (0x249E, "(c)"), (0x249F, "(d)"),
   (0x24A0, "(e)"), (0x24A1, "(f)"), (0x24A2, "(g)"), (0x24A3, "(h)"), (0x24A4, "(i)"),
   (0x24A5, "(j)"), (0x24A6, "(k)"), (0x24A7, "(l)"), (0x24A8, "(m)"), (0x24A9, "(n)"),
   (0x24AA, "(o)"), (0x24AB, "(p)"), (0x24AC, "(q)"), (0x24AD, "(r)"), (0x24AE, "(s)"),
   (0x24AF, "(t)"), (0x24B0, "(u)"), (0x24B1, "(v)"), (0x24B2, "(w)"), (0x24B3, "(x)"),
   (0x24B4, "(y)"), (0x24B5, "(z)"), (0x2A75, "=="), (0x2A76, "==="), (0x3250, "pte"),
   (0x3251, "21"), (0x3252, "22"), (0x3253, "23"), (0x3254, "24"), (0x3255, "25"),
   (0x3256, "26"), (0x3257, "27"), (0x3258, "28"), (0x3259, "29"), (0x325A, "30"),
   (0x325B, "31"), (0x325C, "32"), (0x325D, "33"), (0x325E, "34"), (0x325F, "35"),
   (0x32B1, "36"), (0x32B2, "37"), (0x32B3, "38"), (0x32B4, "39"), (0x32B5, "40"),
   (0x32B6, "41"), (0x32B7, "42"), (0x32B8, "43"), (0x32B9, "44"), (0x32BA, "45"),
   (0x32BB, "46"), (0x32BC, "47"), (0x32BD, "48"), (0x32BE, "49"), (0x32BF, "50"),
   (0x32CC, "hg"), (0x32CD, "erg"), (0x32CE, "ev"), (0x32CF, "ltd"), (0x3371, "hpa"),
   (0x3372, "da"), (0x3373, "au"), (0x3374, "bar"), (0x3375, "ov"), (0x3376, "pc"),
   (0x3377, "dm"), (0x3378, "dm2"), (0x3379, "dm3"), (0x337A, "iu"), (0x3380, "pa"),
   (0x3381, "na"), (0x3383, "ma"), (0x3384, "ka"), (0x3385, "kb"), (0x3386, "mb"),
   (0x3387, "gb"), (0x3388, "cal"), (0x3389, "kcal"), (0x338A, "pf"), (0x338B, "nf"),
   (0x338E, "mg"), (0x338F, "kg"), (0x3390, "hz"), (0x3391, "khz"), (0x3392, "mhz"),
   (0x3393, "ghz"), (0x3394, "thz"), (0x3396, "ml"), (0x3397, "dl"), (0x3398, "kl"),
   (0x3399, "fm"), (0x339A, "nm"), (0x339C, "mm"), (0x339D, "cm"), (0x339E, "km"),
   (0x339F, "mm2"), (0x33A0, "cm2"), (0x33A1, "m2"), (0x33A2, "km2"), (0x33A3, "mm3"),
   (0x33A4, "cm3"), (0x33A5, "m3"), (0x33A6, "km3"), (0x33A9, "pa"), (0x33AA, "kpa"),
   (0x33AB, "mpa"), (0x33AC, "gpa"), (0x33AD, "rad"), (0x33B0, "ps"), (0x33B1, "ns"),
   (0x33B3, "ms"), (0x33B4, "pv"), (0x33B5, "nv"), (0x33B7, "mv"), (0x33B8, "kv"),
   (0x33B9, "mv"), (0x33BA, "pw"), (0x33BB, "nw"), (0x33BD, "mw"), (0x33BE, "kw"),
   (0x33BF, "mw"), (0x33C3, "bq"), (0x33C4, "cc"), (0x33C5, "cd"), (0x33C8, "db"),
   (0x33C9, "gy"), (0x33CA, "ha"), (0x33CB, "hp"), (0x33CC, "in"), (0x33CD, "kk"),
   (0x33CE, "km"), (0x33CF, "kt"), (0x33D0, "lm"), (0x33D1, "ln"), (0x33D2, "log"),
   (0x33D3, "lx"), (0x33D4, "mb"), (0x33D5, "mil"), (0x33D6, "mol"), (0x33D7, "ph"),
   (0x33D9, "ppm"), (0x33DA, "pr"), (0x33DB, "sr"), (0x33DC, "sv"), (0x33DD, "wb"),
   (0x33FF, "gal"), (0xFB00, "ff"), (0xFB01, "fi"), (0xFB02, "fl"), (0xFB03, "ffi"),
   (0xFB04, "ffl"), (0xFB05, "st"), (0xFB06, "st"), (0x1F101, "0,"), (0x1F102, "1,"),
   (0x1F103, "2,"), (0x1F104, "3,"), (0x1F105, "4,"), (0x1F106, "5,"), (0x1F107, "6,"),
   (0x1F108, "7,"), (0x1F109, "8,"), (0x1F10A, "9,"), (0x1F110, "(a)"), (0x1F111, "(b)"),
   (0x1F112, "(c)"), (0x1F113, "(d)"), (0x1F114, "(e)"), (0x1F115, "(f)"), (0x1F116, "(g)"),
   (0x1F117, "(h)"), (0x1F118, "(i)"), (0x1F119, "(j)"), (0x1F11A, "(k)"), (0x1F11B, "(l)"),
   (0x1F11C, "(m)"), (0x1F11D, "(n)"), (0x1F11E, "(o)"), (0x1F11F, "(p)"), (0x1F120, "(q)"),
   (0x1F121, "(r)"), (0x1F122, "(s)"), (0x1F123, "(t)"), (0x1F124, "(u)"), (0x1F125, "(v)"),
   (0x1F126, "(w)"), (0x1F127, "(x)"), (0x1F128, "(y)"), (0x1F129, "(z)"), (0x1F12D, "cd"),
   (0x1F12E, "wz"), (0x1F14A, "hv"), (0x1F14B, "mv"), (0x1F14C, "sd"), (0x1F14D, "ss"),
   (0x1F14E, "ppv"), (0x1F14F, "wc"), (0x1F16A, "mc"), (0x1F16B, "md"), (0x1F16C, "mr"),
   (0x1F190, "dj")]

end PageModel.Address
