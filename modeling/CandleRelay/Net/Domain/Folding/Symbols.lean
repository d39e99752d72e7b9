import CandleRelay.Text.Table

/-!
# Symbols under folding

Signs that are letters, digits or words in another dress: raised and lowered ones, circled ones,
fractions, units, abbreviations in one square, and the alphabets of mathematics. A domain holds the
plain letters.
-/

namespace CandleRelay.Net.Folding

/-- The symbols that stand for plain text. -/
def symbols : List Text.Table.Row := Text.Table.rows [
  "2000-200A=20,20,20,20,20,20,20,20,20,20,20 2011=2010 2017=20.333 202F=20",
  "2033-2034=2032.2032,2032.2032.2032 2036-2037=2035.2035,2035.2035.2035 203C=21.21 203E=20.305",
  "2047-2049=3F.3F,3F.21,21.3F 2057=2032.2032.2032.2032 205F=20 2070-2071=30,69 2074-2079=34",
  "207A-207F=2B,2212,3D,28,29,6E 2080-2089=30 208A-208E=2B,2212,3D,28,29",
  "2090-2095=61,65,6F,78,259,68 2096-2099=6B 209A-209C=70,73,74 20A8=72.73",
  "2100-2103=61.2F.63,61.2F.73,63,B0.63 2105-2107=63.2F.6F,63.2F.75,25B",
  "2109-2113=B0.66,67,68,68,68,68,127,69,69,6C,6C 2115-2116=6E,6E.6F 2119-211B=70 211C-211D=72,72",
  "2120-2122=73.6D,74.65.6C,74.6D 2124=7A 2126=3C9 2128=7A 212A-212D=6B,E5,62,63",
  "212F-2134=65,65,66,214E,6D,6F 2135-2138=5D0 2139=69 213B-2140=66.61.78,3C0,3B3,3B3,3C0,2211",
  "2145-2149=64,64,65,69,6A",
  "2150-2155=31.2044.37,31.2044.39,31.2044.31.30,31.2044.33,32.2044.33,31.2044.35",
  "2156-215C=32.2044.35,33.2044.35,34.2044.35,31.2044.36,35.2044.36,31.2044.38,33.2044.38",
  "215D-2166=35.2044.38,37.2044.38,31.2044,69,69.69,69.69.69,69.76,76,76.69,76.69.69",
  "2167-2174=76.69.69.69,69.78,78,78.69,78.69.69,6C,63,64,6D,69,69.69,69.69.69,69.76,76",
  "2175-217F=76.69,76.69.69,76.69.69.69,69.78,78,78.69,78.69.69,6C,63,64,6D 2183=2184",
  "2189=30.2044.33 222C-222D=222B.222B,222B.222B.222B 222F-2230=222E.222E,222E.222E.222E",
  "2329-232A=3008,3009 2460-2468=31",
  "2469-2474=31.30,31.31,31.32,31.33,31.34,31.35,31.36,31.37,31.38,31.39,32.30,28.31.29",
  "2475-247C=28.32.29,28.33.29,28.34.29,28.35.29,28.36.29,28.37.29,28.38.29,28.39.29",
  "247D-2482=28.31.30.29,28.31.31.29,28.31.32.29,28.31.33.29,28.31.34.29,28.31.35.29",
  "2483-2487=28.31.36.29,28.31.37.29,28.31.38.29,28.31.39.29,28.32.30.29",
  "249C-24A3=28.61.29,28.62.29,28.63.29,28.64.29,28.65.29,28.66.29,28.67.29,28.68.29",
  "24A4-24AB=28.69.29,28.6A.29,28.6B.29,28.6C.29,28.6D.29,28.6E.29,28.6F.29,28.70.29",
  "24AC-24B3=28.71.29,28.72.29,28.73.29,28.74.29,28.75.29,28.76.29,28.77.29,28.78.29",
  "24B4-24B5=28.79.29,28.7A.29 24B6-24CF=61 24D0-24E9=61 24EA=30 2A0C=222B.222B.222B.222B",
  "2A74-2A76=3A.3A.3D,3D.3D,3D.3D.3D 2ADC=2ADD.338 3000=20 3002=2E 3036=3012",
  "3038-303A=5341,5344,5345 309B-309C=20.3099,20.309A 309F=3088.308A 30FF=30B3.30C8",
  "3131-3136=1100,1101,11AA,1102,11AC,11AD 3137-3139=1103 313A-313F=11B0 3140=111A 3141-3143=1106",
  "3144=1121 3145-314E=1109 314F-3163=1161",
  "3165-3173=1114,1115,11C7,11C8,11CC,11CE,11D3,11D7,11D9,111C,11DD,11DF,111D,111E,1120",
  "3174-3177=1122,1123,1127,1129 3178-317C=112B 317D-3183=1132,1136,1140,1147,114C,11F1,11F2",
  "3184-3186=1157 3187-318E=1184,1185,1188,1191,1192,1194,119E,11A1",
  "3192-319F=4E00,4E8C,4E09,56DB,4E0A,4E2D,4E0B,7532,4E59,4E19,4E01,5929,5730,4EBA",
  "3200-3206=28.1100.29,28.1102.29,28.1103.29,28.1105.29,28.1106.29,28.1107.29,28.1109.29",
  "3207-320D=28.110B.29,28.110C.29,28.110E.29,28.110F.29,28.1110.29,28.1111.29,28.1112.29",
  "320E-3214=28.AC00.29,28.B098.29,28.B2E4.29,28.B77C.29,28.B9C8.29,28.BC14.29,28.C0AC.29",
  "3215-321B=28.C544.29,28.C790.29,28.CC28.29,28.CE74.29,28.D0C0.29,28.D30C.29,28.D558.29",
  "321C-321E=28.C8FC.29,28.C624.C804.29,28.C624.D6C4.29",
  "3220-3226=28.4E00.29,28.4E8C.29,28.4E09.29,28.56DB.29,28.4E94.29,28.516D.29,28.4E03.29",
  "3227-322D=28.516B.29,28.4E5D.29,28.5341.29,28.6708.29,28.706B.29,28.6C34.29,28.6728.29",
  "322E-3234=28.91D1.29,28.571F.29,28.65E5.29,28.682A.29,28.6709.29,28.793E.29,28.540D.29",
  "3235-323B=28.7279.29,28.8CA1.29,28.795D.29,28.52B4.29,28.4EE3.29,28.547C.29,28.5B66.29",
  "323C-3242=28.76E3.29,28.4F01.29,28.8CC7.29,28.5354.29,28.796D.29,28.4F11.29,28.81EA.29",
  "3243-3247=28.81F3.29,554F,5E7C,6587,7B8F",
  "3250-325B=70.74.65,32.31,32.32,32.33,32.34,32.35,32.36,32.37,32.38,32.39,33.30,33.31",
  "325C-3262=33.32,33.33,33.34,33.35,1100,1102,1103 3263-3265=1105 3266-3268=1109,110B,110C",
  "3269-326D=110E 326E-327B=AC00,B098,B2E4,B77C,B9C8,BC14,C0AC,C544,C790,CC28,CE74,D0C0,D30C,D558",
  "327C-327E=CC38.ACE0,C8FC.C758,C6B0",
  "3280-328E=4E00,4E8C,4E09,56DB,4E94,516D,4E03,516B,4E5D,5341,6708,706B,6C34,6728,91D1",
  "328F-329D=571F,65E5,682A,6709,793E,540D,7279,8CA1,795D,52B4,79D8,7537,5973,9069,512A",
  "329E-32AC=5370,6CE8,9805,4F11,5199,6B63,4E0A,4E2D,4E0B,5DE6,53F3,533B,5B97,5B66,76E3",
  "32AD-32B9=4F01,8CC7,5354,591C,33.36,33.37,33.38,33.39,34.30,34.31,34.32,34.33,34.34",
  "32BA-32C4=34.35,34.36,34.37,34.38,34.39,35.30,31.6708,32.6708,33.6708,34.6708,35.6708",
  "32C5-32CC=36.6708,37.6708,38.6708,39.6708,31.30.6708,31.31.6708,31.32.6708,68.67",
  "32CD-32D9=65.72.67,65.76,6C.74.64,30A2,30A4,30A6,30A8,30AA,30AB,30AD,30AF,30B1,30B3",
  "32DA-32E3=30B5,30B7,30B9,30BB,30BD,30BF,30C1,30C4,30C6,30C8 32E4-32E9=30CA",
  "32EA-32ED=30D2,30D5,30D8,30DB 32EE-32F2=30DE 32F3-32F4=30E4,30E6 32F5-32FA=30E8 32FB-32FE=30EF",
  "32FF-3302=4EE4.548C,30A2.30D1.30FC.30C8,30A2.30EB.30D5.30A1,30A2.30F3.30DA.30A2",
  "3303-3306=30A2.30FC.30EB,30A4.30CB.30F3.30B0,30A4.30F3.30C1,30A6.30A9.30F3",
  "3307-330A=30A8.30B9.30AF.30FC.30C9,30A8.30FC.30AB.30FC,30AA.30F3.30B9,30AA.30FC.30E0",
  "330B-330E=30AB.30A4.30EA,30AB.30E9.30C3.30C8,30AB.30ED.30EA.30FC,30AC.30ED.30F3",
  "330F-3312=30AC.30F3.30DE,30AE.30AC,30AE.30CB.30FC,30AD.30E5.30EA.30FC",
  "3313-3315=30AE.30EB.30C0.30FC,30AD.30ED,30AD.30ED.30B0.30E9.30E0",
  "3316-3318=30AD.30ED.30E1.30FC.30C8.30EB,30AD.30ED.30EF.30C3.30C8,30B0.30E9.30E0",
  "3319-331B=30B0.30E9.30E0.30C8.30F3,30AF.30EB.30BC.30A4.30ED,30AF.30ED.30FC.30CD",
  "331C-331F=30B1.30FC.30B9,30B3.30EB.30CA,30B3.30FC.30DD,30B5.30A4.30AF.30EB",
  "3320-3323=30B5.30F3.30C1.30FC.30E0,30B7.30EA.30F3.30B0,30BB.30F3.30C1,30BB.30F3.30C8",
  "3324-3329=30C0.30FC.30B9,30C7.30B7,30C9.30EB,30C8.30F3,30CA.30CE,30CE.30C3.30C8",
  "332A-332D=30CF.30A4.30C4,30D1.30FC.30BB.30F3.30C8,30D1.30FC.30C4,30D0.30FC.30EC.30EB",
  "332E-3331=30D4.30A2.30B9.30C8.30EB,30D4.30AF.30EB,30D4.30B3,30D3.30EB",
  "3332-3334=30D5.30A1.30E9.30C3.30C9,30D5.30A3.30FC.30C8,30D6.30C3.30B7.30A7.30EB",
  "3335-3338=30D5.30E9.30F3,30D8.30AF.30BF.30FC.30EB,30DA.30BD,30DA.30CB.30D2",
  "3339-333C=30D8.30EB.30C4,30DA.30F3.30B9,30DA.30FC.30B8,30D9.30FC.30BF",
  "333D-3341=30DD.30A4.30F3.30C8,30DC.30EB.30C8,30DB.30F3,30DD.30F3.30C9,30DB.30FC.30EB",
  "3342-3345=30DB.30FC.30F3,30DE.30A4.30AF.30ED,30DE.30A4.30EB,30DE.30C3.30CF",
  "3346-3349=30DE.30EB.30AF,30DE.30F3.30B7.30E7.30F3,30DF.30AF.30ED.30F3,30DF.30EA",
  "334A-334D=30DF.30EA.30D0.30FC.30EB,30E1.30AC,30E1.30AC.30C8.30F3,30E1.30FC.30C8.30EB",
  "334E-3352=30E4.30FC.30C9,30E4.30FC.30EB,30E6.30A2.30F3,30EA.30C3.30C8.30EB,30EA.30E9",
  "3353-3356=30EB.30D4.30FC,30EB.30FC.30D6.30EB,30EC.30E0,30EC.30F3.30C8.30B2.30F3",
  "3357-335E=30EF.30C3.30C8,30.70B9,31.70B9,32.70B9,33.70B9,34.70B9,35.70B9,36.70B9",
  "335F-3365=37.70B9,38.70B9,39.70B9,31.30.70B9,31.31.70B9,31.32.70B9,31.33.70B9",
  "3366-336C=31.34.70B9,31.35.70B9,31.36.70B9,31.37.70B9,31.38.70B9,31.39.70B9,32.30.70B9",
  "336D-3374=32.31.70B9,32.32.70B9,32.33.70B9,32.34.70B9,68.70.61,64.61,61.75,62.61.72",
  "3375-337D=6F.76,70.63,64.6D,64.6D.32,64.6D.33,69.75,5E73.6210,662D.548C,5927.6B63",
  "337E-3386=660E.6CBB,682A.5F0F.4F1A.793E,70.61,6E.61,3BC.61,6D.61,6B.61,6B.62,6D.62",
  "3387-3390=67.62,63.61.6C,6B.63.61.6C,70.66,6E.66,3BC.66,3BC.67,6D.67,6B.67,68.7A",
  "3391-339A=6B.68.7A,6D.68.7A,67.68.7A,74.68.7A,3BC.6C,6D.6C,64.6C,6B.6C,66.6D,6E.6D",
  "339B-33A4=3BC.6D,6D.6D,63.6D,6B.6D,6D.6D.32,63.6D.32,6D.32,6B.6D.32,6D.6D.33,63.6D.33",
  "33A5-33AC=6D.33,6B.6D.33,6D.2215.73,6D.2215.73.32,70.61,6B.70.61,6D.70.61,67.70.61",
  "33AD-33B4=72.61.64,72.61.64.2215.73,72.61.64.2215.73.32,70.73,6E.73,3BC.73,6D.73,70.76",
  "33B5-33C0=6E.76,3BC.76,6D.76,6B.76,6D.76,70.77,6E.77,3BC.77,6D.77,6B.77,6D.77,6B.3C9",
  "33C1=6D.3C9 33C3-33C6=62.71,63.63,63.64,63.2215.6B.67",
  "33C8-33D3=64.62,67.79,68.61,68.70,69.6E,6B.6B,6B.6D,6B.74,6C.6D,6C.6E,6C.6F.67,6C.78",
  "33D4-33D7=6D.62,6D.69.6C,6D.6F.6C,70.68",
  "33D9-33E1=70.70.6D,70.72,73.72,73.76,77.62,76.2215.6D,61.2215.6D,31.65E5,32.65E5",
  "33E2-33EA=33.65E5,34.65E5,35.65E5,36.65E5,37.65E5,38.65E5,39.65E5,31.30.65E5,31.31.65E5",
  "33EB-33F1=31.32.65E5,31.33.65E5,31.34.65E5,31.35.65E5,31.36.65E5,31.37.65E5,31.38.65E5",
  "33F2-33F8=31.39.65E5,32.30.65E5,32.31.65E5,32.32.65E5,32.33.65E5,32.34.65E5,32.35.65E5",
  "33F9-33FF=32.36.65E5,32.37.65E5,32.38.65E5,32.39.65E5,33.30.65E5,33.31.65E5,67.61.6C",
  "1CCD6-1CCEF=61 1CCF0-1CCF9=30",
  "1D15E-1D162=1D157.1D165,1D158.1D165,1D158.1D165.1D16E,1D158.1D165.1D16F,1D158.1D165.1D170",
  "1D163-1D164=1D158.1D165.1D171,1D158.1D165.1D172",
  "1D1BB-1D1BF=1D1B9.1D165,1D1BA.1D165,1D1B9.1D165.1D16E,1D1BA.1D165.1D16E,1D1B9.1D165.1D16F",
  "1D1C0=1D1BA.1D165.1D16F 1D400-1D419=61 1D41A-1D433=61 1D434-1D44D=61 1D44E-1D454=61",
  "1D456-1D467=69 1D468-1D481=61 1D482-1D49B=61 1D49C=61 1D49E-1D49F=63,64 1D4A2=67",
  "1D4A5-1D4A6=6A,6B 1D4A9-1D4AC=6E 1D4AE-1D4B5=73 1D4B6-1D4B9=61 1D4BB=66 1D4BD-1D4C3=68",
  "1D4C5-1D4CF=70 1D4D0-1D4E9=61 1D4EA-1D503=61 1D504-1D505=61,62 1D507-1D50A=64 1D50D-1D514=6A",
  "1D516-1D51C=73 1D51E-1D537=61 1D538-1D539=61,62 1D53B-1D53E=64 1D540-1D544=69 1D546=6F",
  "1D54A-1D550=73 1D552-1D56B=61 1D56C-1D585=61 1D586-1D59F=61 1D5A0-1D5B9=61 1D5BA-1D5D3=61",
  "1D5D4-1D5ED=61 1D5EE-1D607=61 1D608-1D621=61 1D622-1D63B=61 1D63C-1D655=61 1D656-1D66F=61",
  "1D670-1D689=61 1D68A-1D6A3=61 1D6A4-1D6A5=131,237 1D6A8-1D6B8=3B1 1D6B9=3B8 1D6BA-1D6C0=3C3",
  "1D6C1=2207 1D6C2-1D6D2=3B1 1D6D3=3C3 1D6D4-1D6DA=3C3 1D6DB-1D6E1=2202,3B5,3B8,3BA,3C6,3C1,3C0",
  "1D6E2-1D6F2=3B1 1D6F3=3B8 1D6F4-1D6FA=3C3 1D6FB=2207 1D6FC-1D70C=3B1 1D70D=3C3 1D70E-1D714=3C3",
  "1D715-1D71B=2202,3B5,3B8,3BA,3C6,3C1,3C0 1D71C-1D72C=3B1 1D72D=3B8 1D72E-1D734=3C3 1D735=2207",
  "1D736-1D746=3B1 1D747=3C3 1D748-1D74E=3C3 1D74F-1D755=2202,3B5,3B8,3BA,3C6,3C1,3C0",
  "1D756-1D766=3B1 1D767=3B8 1D768-1D76E=3C3 1D76F=2207 1D770-1D780=3B1 1D781=3C3 1D782-1D788=3C3",
  "1D789-1D78F=2202,3B5,3B8,3BA,3C6,3C1,3C0 1D790-1D7A0=3B1 1D7A1=3B8 1D7A2-1D7A8=3C3 1D7A9=2207",
  "1D7AA-1D7BA=3B1 1D7BB=3C3 1D7BC-1D7C2=3C3 1D7C3-1D7CB=2202,3B5,3B8,3BA,3C6,3C1,3C0,3DD,3DD",
  "1D7CE-1D7D7=30 1D7D8-1D7E1=30 1D7E2-1D7EB=30 1D7EC-1D7F5=30 1D7F6-1D7FF=30",
  "1F101-1F10A=30.2C,31.2C,32.2C,33.2C,34.2C,35.2C,36.2C,37.2C,38.2C,39.2C",
  "1F110-1F117=28.61.29,28.62.29,28.63.29,28.64.29,28.65.29,28.66.29,28.67.29,28.68.29",
  "1F118-1F11F=28.69.29,28.6A.29,28.6B.29,28.6C.29,28.6D.29,28.6E.29,28.6F.29,28.70.29",
  "1F120-1F127=28.71.29,28.72.29,28.73.29,28.74.29,28.75.29,28.76.29,28.77.29,28.78.29",
  "1F128-1F12E=28.79.29,28.7A.29,3014.73.3015,63,72,63.64,77.7A 1F130-1F149=61",
  "1F14A-1F14F=68.76,6D.76,73.64,73.73,70.70.76,77.63 1F16A-1F16C=6D.63,6D.64,6D.72 1F190=64.6A",
  "1F200-1F202=307B.304B,30B3.30B3,30B5",
  "1F210-1F21E=624B,5B57,53CC,30C7,4E8C,591A,89E3,5929,4EA4,6620,7121,6599,524D,5F8C,518D",
  "1F21F-1F22D=65B0,521D,7D42,751F,8CA9,58F0,5439,6F14,6295,6355,4E00,4E09,904A,5DE6,4E2D",
  "1F22E-1F23B=53F3,6307,8D70,6253,7981,7A7A,5408,6E80,6709,6708,7533,5272,55B6,914D",
  "1F240-1F244=3014.672C.3015,3014.4E09.3015,3014.4E8C.3015,3014.5B89.3015,3014.70B9.3015",
  "1F245-1F248=3014.6253.3015,3014.76D7.3015,3014.52DD.3015,3014.6557.3015 1F250-1F251=5F97,53EF",
  "1FBF0-1FBF9=30"]

end CandleRelay.Net.Folding
