/-! Classes of characters: direction, marks, and the way letters join. The ranges run
across characters that a domain name does not keep. -/
namespace CurlScribe.Domain

/-- Ranges of directions other than left-to-right: first, last, place in `Direction.all`. -/
def directionText : String := "
0 8 8 E 1B 8 21 22 7 23 25 6 26 2A 7 2B 2B 4 2C 2C 5 2D 2D 4 2E 2F 5 30 39 3 3A 3A 5 3B 60 7
7B 7E 7 7F 7F 8 A1 A1 7 A2 A5 6 A6 AE 7 B0 B1 6 B6 D7 7 F7 F7 7 2B9 2BA 7 2C2 2CF 7 2D2 2ED 7
2EF 2FF 7 300 36F 9 375 375 7 3F6 3F6 7 483 489 9 58A 58E 7 58F 58F 6 591 5BD 9 5BE 5BE 0
5BF 5BF 9 5C0 5C0 0 5C1 5C2 9 5C3 5C3 0 5C4 5C5 9 5C6 5C6 0 5C7 5C7 9 5D0 5F4 0 606 607 7
608 608 1 609 60A 6 60B 60B 1 60C 60C 5 60D 60D 1 60E 60F 7 610 61A 9 61B 64A 1 64B 65F 9
660 669 2 66A 66A 6 66B 66C 2 66D 66F 1 670 670 9 671 6D5 1 6D6 6DC 9 6DE 6DE 7 6DF 6E4 9
6E5 6E6 1 6E7 6E8 9 6E9 6E9 7 6EA 6ED 9 6EE 6EF 1 6F0 6F9 3 6FA 710 1 711 711 9 712 72F 1
730 74A 9 74D 7A5 1 7A6 7B0 9 7B1 7B1 1 7C0 7EA 0 7EB 7F3 9 7F4 7F5 0 7F6 7F9 7 7FA 7FA 0
7FD 7FD 9 7FE 815 0 816 819 9 81A 81A 0 81B 823 9 824 824 0 825 827 9 828 828 0 829 82D 9
830 858 0 859 85B 9 85E 85E 0 860 897 1 898 89F 9 8A0 8C9 1 8CA 902 9 93A 93A 9 93C 93C 9
941 948 9 94D 94D 9 951 957 9 962 963 9 981 981 9 9BC 9BC 9 9C1 9C4 9 9CD 9CD 9 9E2 9E3 9
9F2 9F3 6 9FB 9FB 6 9FE A02 9 A3C A3C 9 A41 A51 9 A70 A71 9 A75 A75 9 A81 A82 9 ABC ABC 9
AC1 AC8 9 ACD ACD 9 AE2 AE3 9 AF1 AF1 6 AFA B01 9 B3C B3C 9 B3F B3F 9 B41 B44 9 B4D B56 9
B62 B63 9 B82 B82 9 BC0 BC0 9 BCD BCD 9 BF3 BF8 7 BF9 BF9 6 BFA BFA 7 C00 C00 9 C04 C04 9
C3C C3C 9 C3E C40 9 C46 C56 9 C62 C63 9 C78 C7E 7 C81 C81 9 CBC CBC 9 CCC CCD 9 CE2 CE3 9
D00 D01 9 D3B D3C 9 D41 D44 9 D4D D4D 9 D62 D63 9 D81 D81 9 DCA DCA 9 DD2 DD6 9 E31 E31 9
E34 E3A 9 E3F E3F 6 E47 E4E 9 EB1 EB1 9 EB4 EBC 9 EC8 ECE 9 F18 F19 9 F35 F35 9 F37 F37 9
F39 F39 9 F3A F3D 7 F71 F7E 9 F80 F84 9 F86 F87 9 F8D FBC 9 FC6 FC6 9 102D 1030 9 1032 1037 9
1039 103A 9 103D 103E 9 1058 1059 9 105E 1060 9 1071 1074 9 1082 1082 9 1085 1086 9 108D 108D 9
109D 109D 9 135D 135F 9 1390 1399 7 1400 1400 7 169B 169C 7 1712 1714 9 1732 1733 9 1752 1753 9
1772 1773 9 17B7 17BD 9 17C6 17C6 9 17C9 17D3 9 17DB 17DB 6 17DD 17DD 9 17F0 180A 7 1885 1886 9
18A9 18A9 9 1920 1922 9 1927 1928 9 1932 1932 9 1939 193B 9 1940 1945 7 19DE 19FF 7 1A17 1A18 9
1A1B 1A1B 9 1A56 1A56 9 1A58 1A60 9 1A62 1A62 9 1A65 1A6C 9 1A73 1A7F 9 1AB0 1ACE 9 1B00 1B03 9
1B34 1B34 9 1B36 1B3A 9 1B3C 1B3C 9 1B42 1B42 9 1B6B 1B73 9 1B80 1B81 9 1BA2 1BA5 9 1BA8 1BA9 9
1BAB 1BAD 9 1BE6 1BE6 9 1BE8 1BE9 9 1BED 1BED 9 1BEF 1BF1 9 1C2C 1C33 9 1C36 1C37 9 1CD0 1CD2 9
1CD4 1CE0 9 1CE2 1CE8 9 1CED 1CED 9 1CF4 1CF4 9 1CF8 1CF9 9 1DC0 1DFF 9 200C 200D 8 2010 2027 7
2030 2032 6 2035 2043 7 2044 2044 5 2045 205E 7 20A0 20C1 6 20D0 20F0 9 2104 2129 7 212E 212E 6
213A 214D 7 218A 2211 7 2212 2212 4 2213 2213 6 2214 2335 7 237B 2394 7 2396 2426 7 2440 26AB 7
26AD 27FF 7 2900 2B95 7 2B97 2BFF 7 2CE5 2CEA 7 2CEF 2CF1 9 2CF9 2CFF 7 2D7F 2D7F 9 2DE0 2DFF 9
2E00 3004 7 3008 3020 7 302A 302D 9 3030 3030 7 3037 3037 7 303D 303F 7 3099 309A 9 30A0 30A0 7
30FB 30FB 7 31C0 31E3 7 4DC0 4DFF 7 A490 A4C6 7 A60D A60F 7 A66F A672 9 A673 A673 7 A674 A67D 9
A67E A67F 7 A69E A69F 9 A6F0 A6F1 9 A700 A721 7 A788 A788 7 A802 A802 9 A806 A806 9 A80B A80B 9
A825 A826 9 A828 A82B 7 A82C A82C 9 A838 A839 6 A874 A877 7 A8C4 A8C5 9 A8E0 A8F1 9 A8FF A8FF 9
A926 A92D 9 A947 A951 9 A980 A982 9 A9B3 A9B3 9 A9B6 A9B9 9 A9BC A9BD 9 A9E5 A9E5 9 AA29 AA2E 9
AA31 AA32 9 AA35 AA36 9 AA43 AA43 9 AA4C AA4C 9 AA7C AA7C 9 AAB0 AAB0 9 AAB2 AAB4 9 AAB7 AAB8 9
AABE AABF 9 AAC1 AAC1 9 AAEC AAED 9 AAF6 AAF6 9 AB6A AB6B 7 ABE5 ABE5 9 ABE8 ABE8 9 ABED ABED 9
FB1E FB1E 9 FBB2 FBD2 1 FD3E FD4F 7 FD90 FDCE 1 FDCF FDFF 7 FE20 FE2F 9 FE45 FE46 7 FE73 FE73 1
10101 10101 7 10140 1018C 7 10190 101A0 7 101FD 101FD 9 102E0 102E0 9 102E1 102FB 3 10376 1037A 9
10800 1091B 0 1091F 1091F 7 10920 10A00 0 10A01 10A0F 9 10A10 10A35 0 10A38 10A3F 9 10A40 10AE4 0
10AE5 10AE6 9 10AEB 10B35 0 10B39 10B3F 7 10B40 10CFF 0 10D00 10D23 1 10D24 10D27 9 10D30 10D39 2
10D40 10D8F 0 10E60 10E7E 2 10E80 10EA9 0 10EAB 10EAC 9 10EAD 10EB1 0 10EC2 10EFC 1 10EFD 10EFF 9
10F00 10F27 0 10F30 10F45 1 10F46 10F50 9 10F51 10F59 1 10F70 10F81 0 10F82 10F85 9 10F86 10FF6 0
11001 11001 9 11038 11046 9 11052 11065 7 11070 11070 9 11073 11074 9 1107F 11081 9 110B3 110B6 9
110B9 110BA 9 110C2 110C2 9 11100 11102 9 11127 1112B 9 1112D 11134 9 11173 11173 9 11180 11181 9
111B6 111BE 9 111C9 111CC 9 111CF 111CF 9 1122F 11231 9 11234 11234 9 11236 11237 9 1123E 1123E 9
11241 11241 9 112DF 112DF 9 112E3 112EA 9 11300 11301 9 1133B 1133C 9 11340 11340 9 11366 11374 9
11438 1143F 9 11442 11444 9 11446 11446 9 1145E 1145E 9 114B3 114B8 9 114BA 114BA 9 114BF 114C0 9
114C2 114C3 9 115B2 115B5 9 115BC 115BD 9 115BF 115C0 9 115DC 115DD 9 11633 1163A 9 1163D 1163D 9
1163F 11640 9 11660 1166C 7 116AB 116AB 9 116AD 116AD 9 116B0 116B5 9 116B7 116B7 9 1171D 1171F 9
11722 11725 9 11727 1172B 9 1182F 11837 9 11839 1183A 9 1193B 1193C 9 1193E 1193E 9 11943 11943 9
119D4 119DB 9 119E0 119E0 9 11A01 11A06 9 11A09 11A0A 9 11A33 11A38 9 11A3B 11A3E 9 11A47 11A47 9
11A51 11A56 9 11A59 11A5B 9 11A8A 11A96 9 11A98 11A99 9 11C30 11C3D 9 11C92 11CA7 9 11CAA 11CB0 9
11CB2 11CB3 9 11CB5 11CB6 9 11D31 11D45 9 11D47 11D47 9 11D90 11D91 9 11D95 11D95 9 11D97 11D97 9
11EF3 11EF4 9 11F00 11F01 9 11F36 11F3A 9 11F40 11F40 9 11F42 11F42 9 11FD5 11FDC 7 11FDD 11FE0 6
11FE1 11FF1 7 13440 13440 9 13447 13455 9 16AF0 16AF4 9 16B30 16B36 9 16F4F 16F4F 9 16F8F 16F92 9
16FE2 16FE2 7 16FE4 16FE4 9 1BC9D 1BC9E 9 1CF00 1CF46 9 1D167 1D169 9 1D17B 1D182 9 1D185 1D18B 9
1D1AA 1D1AD 9 1D1E9 1D241 7 1D242 1D244 9 1D245 1D245 7 1D300 1D356 7 1DA00 1DA36 9 1DA3B 1DA6C 9
1DA75 1DA75 9 1DA84 1DA84 9 1DA9B 1DAAF 9 1E000 1E08F 9 1E130 1E136 9 1E2AE 1E2AE 9 1E2EC 1E2EF 9
1E2FF 1E2FF 6 1E4EC 1E4EF 9 1E800 1E8CF 0 1E8D0 1E8D6 9 1E922 1E943 0 1E944 1E94A 9 1E94B 1E95F 0
1EC71 1ED3D 1 1EEF0 1F12F 7 1F16D 1F16F 7 1F1AD 1F1AD 7 1F260 1F6D7 7 1F6DC 1F776 7 1F77B 1F8B1 7
1F900 1FA53 7 1FA60 1FA88 7 1FA90 1FABD 7 1FABF 1FAC5 7 1FACE 1FADB 7 1FAE0 1FAE8 7 1FAF0 1FBCA 7"

/-- Ranges of marks that take no room of their own: first, last. -/
def nonspacingText : String := "
300 36F 483 489 591 5BD 5BF 5BF 5C1 5C2 5C4 5C5 5C7 5C7 610 61A 64B 65F 670 670 6D6 6DC 6DF 6E4
6E7 6E8 6EA 6ED 711 711 730 74A 7A6 7B0 7EB 7F3 7FD 7FD 816 819 81B 823 825 827 829 82D 859 85B
898 89F 8CA 902 93A 93A 93C 93C 941 948 94D 94D 951 957 962 963 981 981 9BC 9BC 9C1 9C4 9CD 9CD
9E2 9E3 9FE A02 A3C A3C A41 A51 A70 A71 A75 A75 A81 A82 ABC ABC AC1 AC8 ACD ACD AE2 AE3 AFA B01
B3C B3C B3F B3F B41 B44 B4D B56 B62 B63 B82 B82 BC0 BC0 BCD BCD C00 C00 C04 C04 C3C C3C C3E C40
C46 C56 C62 C63 C81 C81 CBC CBC CBF CBF CC6 CC6 CCC CCD CE2 CE3 D00 D01 D3B D3C D41 D44 D4D D4D
D62 D63 D81 D81 DCA DCA DD2 DD6 E31 E31 E34 E3A E47 E4E EB1 EB1 EB4 EBC EC8 ECE F18 F19 F35 F35
F37 F37 F39 F39 F71 F7E F80 F84 F86 F87 F8D FBC FC6 FC6 102D 1030 1032 1037 1039 103A 103D 103E
1058 1059 105E 1060 1071 1074 1082 1082 1085 1086 108D 108D 109D 109D 135D 135F 1712 1714
1732 1733 1752 1753 1772 1773 17B7 17BD 17C6 17C6 17C9 17D3 17DD 17DD 1885 1886 18A9 18A9
1920 1922 1927 1928 1932 1932 1939 193B 1A17 1A18 1A1B 1A1B 1A56 1A56 1A58 1A60 1A62 1A62
1A65 1A6C 1A73 1A7F 1AB0 1ACE 1B00 1B03 1B34 1B34 1B36 1B3A 1B3C 1B3C 1B42 1B42 1B6B 1B73
1B80 1B81 1BA2 1BA5 1BA8 1BA9 1BAB 1BAD 1BE6 1BE6 1BE8 1BE9 1BED 1BED 1BEF 1BF1 1C2C 1C33
1C36 1C37 1CD0 1CD2 1CD4 1CE0 1CE2 1CE8 1CED 1CED 1CF4 1CF4 1CF8 1CF9 1DC0 1DFF 20D0 20F0
2CEF 2CF1 2D7F 2D7F 2DE0 2DFF 302A 302D 3099 309A A66F A672 A674 A67D A69E A69F A6F0 A6F1
A802 A802 A806 A806 A80B A80B A825 A826 A82C A82C A8C4 A8C5 A8E0 A8F1 A8FF A8FF A926 A92D
A947 A951 A980 A982 A9B3 A9B3 A9B6 A9B9 A9BC A9BD A9E5 A9E5 AA29 AA2E AA31 AA32 AA35 AA36
AA43 AA43 AA4C AA4C AA7C AA7C AAB0 AAB0 AAB2 AAB4 AAB7 AAB8 AABE AABF AAC1 AAC1 AAEC AAED
AAF6 AAF6 ABE5 ABE5 ABE8 ABE8 ABED ABED FB1E FB1E FE20 FE2F 101FD 101FD 102E0 102E0 10376 1037A
10A01 10A0F 10A38 10A3F 10AE5 10AE6 10D24 10D27 10EAB 10EAC 10EFD 10EFF 10F46 10F50 10F82 10F85
11001 11001 11038 11046 11070 11070 11073 11074 1107F 11081 110B3 110B6 110B9 110BA 110C2 110C2
11100 11102 11127 1112B 1112D 11134 11173 11173 11180 11181 111B6 111BE 111C9 111CC 111CF 111CF
1122F 11231 11234 11234 11236 11237 1123E 1123E 11241 11241 112DF 112DF 112E3 112EA 11300 11301
1133B 1133C 11340 11340 11366 11374 11438 1143F 11442 11444 11446 11446 1145E 1145E 114B3 114B8
114BA 114BA 114BF 114C0 114C2 114C3 115B2 115B5 115BC 115BD 115BF 115C0 115DC 115DD 11633 1163A
1163D 1163D 1163F 11640 116AB 116AB 116AD 116AD 116B0 116B5 116B7 116B7 1171D 1171F 11722 11725
11727 1172B 1182F 11837 11839 1183A 1193B 1193C 1193E 1193E 11943 11943 119D4 119DB 119E0 119E0
11A01 11A0A 11A33 11A38 11A3B 11A3E 11A47 11A47 11A51 11A56 11A59 11A5B 11A8A 11A96 11A98 11A99
11C30 11C3D 11C3F 11C3F 11C92 11CA7 11CAA 11CB0 11CB2 11CB3 11CB5 11CB6 11D31 11D45 11D47 11D47
11D90 11D91 11D95 11D95 11D97 11D97 11EF3 11EF4 11F00 11F01 11F36 11F3A 11F40 11F40 11F42 11F42
13440 13440 13447 13455 16AF0 16AF4 16B30 16B36 16F4F 16F4F 16F8F 16F92 16FE4 16FE4 1BC9D 1BC9E
1CF00 1CF46 1D167 1D169 1D17B 1D182 1D185 1D18B 1D1AA 1D1AD 1D242 1D244 1DA00 1DA36 1DA3B 1DA6C
1DA75 1DA75 1DA84 1DA84 1DA9B 1DAAF 1E000 1E08F 1E130 1E136 1E2AE 1E2AE 1E2EC 1E2EF 1E4EC 1E4EF
1E8D0 1E8D6 1E944 1E94A"

/-- Ranges of marks that take room: first, last. -/
def spacingText : String := "
903 903 93B 93B 93E 940 949 94C 94E 94F 982 983 9BE 9C0 9C7 9CC 9D7 9D7 A03 A03 A3E A40 A83 A83
ABE AC0 AC9 ACC B02 B03 B3E B3E B40 B40 B47 B4C B57 B57 BBE BBF BC1 BCC BD7 BD7 C01 C03 C41 C44
C82 C83 CBE CBE CC0 CC4 CC7 CCB CD5 CD6 CF3 CF3 D02 D03 D3E D40 D46 D4C D57 D57 D82 D83 DCF DD1
DD8 DDF DF2 DF3 F3E F3F F7F F7F 102B 102C 1031 1031 1038 1038 103B 103C 1056 1057 1062 1064
1067 106D 1083 1084 1087 108C 108F 108F 109A 109C 1715 1715 1734 1734 17B6 17B6 17BE 17C5
17C7 17C8 1923 1926 1929 1931 1933 1938 1A19 1A1A 1A55 1A55 1A57 1A57 1A61 1A61 1A63 1A64
1A6D 1A72 1B04 1B04 1B35 1B35 1B3B 1B3B 1B3D 1B41 1B43 1B44 1B82 1B82 1BA1 1BA1 1BA6 1BA7
1BAA 1BAA 1BE7 1BE7 1BEA 1BEC 1BEE 1BEE 1BF2 1BF3 1C24 1C2B 1C34 1C35 1CE1 1CE1 1CF7 1CF7
302E 302F A823 A824 A827 A827 A880 A881 A8B4 A8C3 A952 A953 A983 A983 A9B4 A9B5 A9BA A9BB
A9BE A9C0 AA2F AA30 AA33 AA34 AA4D AA4D AA7B AA7B AA7D AA7D AAEB AAEB AAEE AAEF AAF5 AAF5
ABE3 ABE4 ABE6 ABE7 ABE9 ABEA ABEC ABEC 11000 11000 11002 11002 11082 11082 110B0 110B2
110B7 110B8 1112C 1112C 11145 11146 11182 11182 111B3 111B5 111BF 111C0 111CE 111CE 1122C 1122E
11232 11233 11235 11235 112E0 112E2 11302 11303 1133E 1133F 11341 1134D 11357 11357 11362 11363
11435 11437 11440 11441 11445 11445 114B0 114B2 114B9 114B9 114BB 114BE 114C1 114C1 115AF 115B1
115B8 115BB 115BE 115BE 11630 11632 1163B 1163C 1163E 1163E 116AC 116AC 116AE 116AF 116B6 116B6
11720 11721 11726 11726 1182C 1182E 11838 11838 11930 11938 1193D 1193D 11940 11940 11942 11942
119D1 119D3 119DC 119DF 119E4 119E4 11A39 11A39 11A57 11A58 11A97 11A97 11C2F 11C2F 11C3E 11C3E
11CA9 11CA9 11CB1 11CB1 11CB4 11CB4 11D8A 11D8E 11D93 11D94 11D96 11D96 11EF5 11EF6 11F03 11F03
11F34 11F35 11F3E 11F3F 11F41 11F41 16F51 16F87 16FF0 16FF1 1D165 1D166 1D16D 1D172"

/-- Ranges of letters that join others: first, last, and on which side: 0 both, 1 right, 2 left. -/
def joiningText : String := "
620 620 0 622 625 1 626 626 0 627 627 1 628 628 0 629 629 1 62A 62E 0 62F 632 1 633 63F 0
641 647 0 648 648 1 649 64A 0 66E 66F 0 671 673 1 679 687 0 688 699 1 69A 6BF 0 6C0 6C0 1
6C1 6C2 0 6C3 6CB 1 6CC 6CC 0 6CD 6CD 1 6CE 6CE 0 6CF 6CF 1 6D0 6D1 0 6D2 6D3 1 6D5 6D5 1
6EE 6EF 1 6FA 6FC 0 6FF 6FF 0 710 710 1 712 714 0 715 719 1 71A 71D 0 71E 71E 1 71F 727 0
728 728 1 729 729 0 72A 72A 1 72B 72B 0 72C 72C 1 72D 72E 0 72F 72F 1 74D 74D 1 74E 758 0
759 75B 1 75C 76A 0 76B 76C 1 76D 770 0 771 771 1 772 772 0 773 774 1 775 777 0 778 779 1
77A 77F 0 7CA 7EA 0 840 840 1 841 845 0 846 847 1 848 848 0 849 849 1 84A 853 0 854 854 1
855 855 0 856 858 1 860 860 0 862 865 0 867 867 1 868 868 0 869 882 1 886 886 0 889 88D 0
88E 88E 1 8A0 8A9 0 8AA 8AC 1 8AE 8AE 1 8AF 8B0 0 8B1 8B2 1 8B3 8B8 0 8B9 8B9 1 8BA 8C8 0
1807 1807 0 1820 1878 0 1887 18A8 0 18AA 18AA 0 A840 A871 0 A872 A872 2 10AC0 10AC4 0
10AC5 10AC5 1 10AC7 10AC7 1 10AC9 10ACA 1 10ACD 10ACD 2 10ACE 10AD2 1 10AD3 10AD6 0 10AD7 10AD7 2
10AD8 10ADC 0 10ADD 10ADD 1 10ADE 10AE0 0 10AE1 10AE1 1 10AE4 10AE4 1 10AEB 10AEE 0 10AEF 10AEF 1
10B80 10B80 0 10B81 10B81 1 10B82 10B82 0 10B83 10B85 1 10B86 10B88 0 10B89 10B89 1 10B8A 10B8B 0
10B8C 10B8C 1 10B8D 10B8D 0 10B8E 10B8F 1 10B90 10B90 0 10B91 10B91 1 10BA9 10BAC 1 10BAD 10BAE 0
10D00 10D00 2 10D01 10D21 0 10D22 10D22 1 10D23 10D23 0 10F30 10F32 0 10F33 10F33 1 10F34 10F44 0
10F51 10F53 0 10F54 10F54 1 10F70 10F73 0 10F74 10F75 1 10F76 10F81 0 10FB0 10FB0 0 10FB2 10FB3 0
10FB4 10FB6 1 10FB8 10FB8 0 10FB9 10FBA 1 10FBB 10FBC 0 10FBD 10FBD 1 10FBE 10FBF 0 10FC1 10FC1 0
10FC2 10FC3 1 10FC4 10FC4 0 10FC9 10FC9 1 10FCA 10FCA 0 10FCB 10FCB 2 1E922 1E943 0"

end CurlScribe.Domain
