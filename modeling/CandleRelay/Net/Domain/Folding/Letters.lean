import CandleRelay.Text.Table

/-!
# Letters under folding

Letters of all scripts that a domain holds in another form: capitals, whose small letters stand for
them, letters with a decoration that does not count, and letters that are written in two. Most
capitals come in pairs with their small letters or lie in one run as the small letters do in
another.
-/

namespace CandleRelay.Net.Folding

/-- The letters that stand for others. -/
def letters : List Text.Table.Row := Text.Table.rows [
  "A0=20 A8=20.308 AA=61 AF=20.304 B2-B5=32,33,20.301,3BC B8-BA=20.327,31,6F",
  "BC-BE=31.2044.34,31.2044.32,33.2044.34 C0-D6=E0 D8-DE=F8 100-12E 130=69.307",
  "132-133=69.6A,69.6A 134-136 139-13D 13F-140=6C.B7,6C.B7 141-147 149=2BC.6E 14A-176 178=FF",
  "179-17D 17F=73 181=253 182-184 186-187=254,188 189-18B=256,257,18C 18E-191=1DD,259,25B,192",
  "193-194=260,263 196-198=269,268,199 19C-19D=26F,272 19F=275 1A0-1A4 1A6-1A7=280,1A8 1A9=283",
  "1AC=1AD 1AE-1AF=288,1B0 1B1-1B2=28A,28B 1B3-1B5 1B7-1B8=292,1B9 1BC=1BD",
  "1C4-1CC=64.17E,64.17E,64.17E,6C.6A,6C.6A,6C.6A,6E.6A,6E.6A,6E.6A 1CD-1DB 1DE-1EE",
  "1F1-1F4=64.7A,64.7A,64.7A,1F5 1F6-1F7=195,1BF 1F8-21E 220=19E 222-232 23A-23B=2C65,23C",
  "23D-23E=19A,2C66 241=242 243-245=180,289,28C 246-24E 2B0-2B8=68,266,6A,72,279,27B,281,77,79",
  "2D8-2DD=20.306,20.307,20.30A,20.328,20.303,20.30B 2E0-2E4=263,6C,73,78,295 340-341=300,301",
  "343-345=313,308.301,3B9 370-372 374=2B9 376=377 37A=20.3B9 37E-37F=3B,3F3",
  "384-387=20.301,20.308.301,3AC,B7 388-38A=3AD 38C=3CC 38E-38F=3CD,3CE 391-3A1=3B1 3A3-3AB=3C3",
  "3CF-3D6=3D7,3B2,3B8,3C5,3CD,3CB,3C6,3C0 3D8-3EE 3F0-3F2=3BA,3C1,3C3 3F4-3F5=3B8,3B5 3F7=3F8",
  "3F9-3FA=3C3,3FB 3FD-3FF=37B 400-40F=450 410-42F=430 460-480 48A-4BE 4C0=4CF 4C1-4CD 4D0-52E",
  "531-556=561 587=565.582 675-678=627.674,648.674,6C7.674,64A.674",
  "958-95F=915.93C,916.93C,917.93C,91C.93C,921.93C,922.93C,92B.93C,92F.93C",
  "9DC-9DD=9A1.9BC,9A2.9BC 9DF=9AF.9BC A33=A32.A3C A36=A38.A3C A59-A5B=A16.A3C,A17.A3C,A1C.A3C",
  "A5E=A2B.A3C B5C-B5D=B21.B3C,B22.B3C E33=E4D.E32 EB3=ECD.EB2 EDC-EDD=EAB.E99,EAB.EA1 F0C=F0B",
  "F43=F42.FB7 F4D=F4C.FB7 F52=F51.FB7 F57=F56.FB7 F5C=F5B.FB7 F69=F40.FB5 F73=F71.F72",
  "F75-F79=F71.F74,FB2.F80,FB2.F71.F80,FB3.F80,FB3.F71.F80 F81=F71.F80 F93=F92.FB7 F9D=F9C.FB7",
  "FA2=FA1.FB7 FA7=FA6.FB7 FAC=FAB.FB7 FB9=F90.FB5 10A0-10C5=2D00 10C7=2D27 10CD=2D2D 10FC=10DC",
  "13F8-13FD=13F0 1C80-1C89=432,434,43E,441,442,442,44A,463,A64B,1C8A 1C90-1CBA=10D0",
  "1CBD-1CBF=10FD 1D2C-1D2E=61,E6,62 1D30-1D32=64,65,1DD 1D33-1D3A=67",
  "1D3C-1D4D=6F,223,70,72,74,75,77,61,250,251,1D02,62,64,65,259,25B,25C,67",
  "1D4F-1D5C=6B,6D,14B,6F,254,1D16,1D17,70,74,75,1D1D,26F,76,1D25 1D5D-1D5F=3B2",
  "1D60-1D6A=3C6,3C7,69,72,75,76,3B2,3B3,3C1,3C6,3C7 1D78=43D",
  "1D9B-1DA3=252,63,255,F0,25C,66,25F,261,265 1DA4-1DA6=268",
  "1DA7-1DAD=1D7B,29D,26D,1D85,29F,271,270 1DAE-1DB1=272",
  "1DB2-1DBB=278,282,283,1AB,289,28A,1D1C,28B,28C,7A 1DBC-1DBE=290 1DBF=3B8 1E00-1E94",
  "1E9A-1E9B=61.2BE,1E61 1E9E=DF 1EA0-1EFE 1F08-1F0F=1F00 1F18-1F1D=1F10 1F28-1F2F=1F20",
  "1F38-1F3F=1F30 1F48-1F4D=1F40 1F59=1F51 1F5B=1F53 1F5D=1F55 1F5F=1F57 1F68-1F6F=1F60 1F71=3AC",
  "1F73=3AD 1F75=3AE 1F77=3AF 1F79=3CC 1F7B=3CD 1F7D=3CE",
  "1F80-1F87=1F00.3B9,1F01.3B9,1F02.3B9,1F03.3B9,1F04.3B9,1F05.3B9,1F06.3B9,1F07.3B9",
  "1F88-1F8F=1F00.3B9,1F01.3B9,1F02.3B9,1F03.3B9,1F04.3B9,1F05.3B9,1F06.3B9,1F07.3B9",
  "1F90-1F97=1F20.3B9,1F21.3B9,1F22.3B9,1F23.3B9,1F24.3B9,1F25.3B9,1F26.3B9,1F27.3B9",
  "1F98-1F9F=1F20.3B9,1F21.3B9,1F22.3B9,1F23.3B9,1F24.3B9,1F25.3B9,1F26.3B9,1F27.3B9",
  "1FA0-1FA7=1F60.3B9,1F61.3B9,1F62.3B9,1F63.3B9,1F64.3B9,1F65.3B9,1F66.3B9,1F67.3B9",
  "1FA8-1FAF=1F60.3B9,1F61.3B9,1F62.3B9,1F63.3B9,1F64.3B9,1F65.3B9,1F66.3B9,1F67.3B9",
  "1FB2-1FB4=1F70.3B9,3B1.3B9,3AC.3B9",
  "1FB7-1FC1=1FB6.3B9,1FB0,1FB1,1F70,3AC,3B1.3B9,20.313,3B9,20.313,20.342,20.308.342",
  "1FC2-1FC4=1F74.3B9,3B7.3B9,3AE.3B9",
  "1FC7-1FCF=1FC6.3B9,1F72,3AD,1F74,3AE,3B7.3B9,20.313.300,20.313.301,20.313.342 1FD3=390",
  "1FD8-1FDB=1FD0,1FD1,1F76,3AF 1FDD-1FDF=20.314.300,20.314.301,20.314.342 1FE3=3B0",
  "1FE8-1FEF=1FE0,1FE1,1F7A,3CD,1FE5,20.308.300,20.308.301,60 1FF2-1FF4=1F7C.3B9,3C9.3B9,3CE.3B9",
  "1FF7-1FFE=1FF6.3B9,1F78,3CC,1F7C,3CE,3C9.3B9,20.301,20.314 2C00-2C2F=2C30 2C60=2C61",
  "2C62-2C64=26B,1D7D,27D 2C67-2C6B 2C6D-2C70=251,271,250,252 2C72=2C73 2C75=2C76",
  "2C7C-2C7F=6A,76,23F,240 2C80-2CE2 2CEB-2CED 2CF2=2CF3 2D6F=2D61 A640-A66C A680-A69A",
  "A69C-A69D=44A,44C A722-A72E A732-A76E A770=A76F A779-A77B A77D=1D79 A77E-A786 A78B=A78C",
  "A78D=265 A790-A792 A796-A7A8 A7AA-A7AE=266,25C,261,26C,26A A7B0-A7B3=29E,287,29D,AB53",
  "A7B4-A7C2 A7C4-A7C6=A794,282,1D8E A7C7-A7C9 A7CB=264 A7CC-A7DA A7DC=19B",
  "A7F1-A7F5=73,63,66,71,A7F6 A7F8-A7F9=127,153 AB5C-AB5F=A727,AB37,26B,AB52 AB69=28D",
  "AB70-ABBF=13A0 10400-10427=10428 104B0-104D3=104D8 10570-1057A=10597 1057C-1058A=105A3",
  "1058C-10592=105B3 10594-10595=105BB,105BC 10781-10785=2D0,2D1,E6,299,253",
  "10787-10799=2A3,AB66,2A5,2A4,256,257,1D91,258,25E,2A9,264,262,260,29B,127,29C,267,284,2AA",
  "1079A-107AA=2AB,26C,1DF04,A78E,26E,1DF05,28E,1DF06,F8,276,277,71,27A,1DF08,27D,27E,280",
  "107AB-107B0=2A8,2A6,AB67,2A7,288,2C71 107B2-107B5=28F,2A1,2A2,298 107B6-107B8=1C0",
  "107B9-107BA=1DF0A,1DF1E 10C80-10CB2=10CC0 10D50-10D65=10D70 118A0-118BF=118C0",
  "16E40-16E5F=16E60 16EA0-16EB8=16EBB 1E030-1E038=430 1E039-1E03B=43A 1E03C-1E046=43E",
  "1E047-1E050=44B,44D,44E,A689,4D9,456,458,4E9,4AF,4CF 1E051-1E059=430",
  "1E05A-1E05E=43A,43B,43E,43F,441 1E05F-1E064=443",
  "1E065-1E06D=44A,44B,491,456,455,45F,4AB,A651,4B1 1E900-1E921=1E922"]

end CandleRelay.Net.Folding
