import CandleRelay.Text.Table

/-!
# Written forms under folding

Ligatures, the forms that letters take within a word or a column, and the wide and narrow forms of
letters and marks. A domain holds the letters themselves.
-/

namespace CandleRelay.Net.Folding

/-- The written forms that stand for letters. -/
def forms : List Text.Table.Row := Text.Table.rows [
  "FB00-FB06=66.66,66.69,66.6C,66.66.69,66.66.6C,73.74,73.74",
  "FB13-FB17=574.576,574.565,574.56B,57E.576,574.56D FB1D=5D9.5B4",
  "FB1F-FB23=5F2.5B7,5E2,5D0,5D3,5D4 FB24-FB26=5DB",
  "FB27-FB30=5E8,5EA,2B,5E9.5C1,5E9.5C2,5E9.5BC.5C1,5E9.5BC.5C2,5D0.5B7,5D0.5B8,5D0.5BC",
  "FB31-FB36=5D1.5BC,5D2.5BC,5D3.5BC,5D4.5BC,5D5.5BC,5D6.5BC",
  "FB38-FB3C=5D8.5BC,5D9.5BC,5DA.5BC,5DB.5BC,5DC.5BC FB3E=5DE.5BC FB40-FB41=5E0.5BC,5E1.5BC",
  "FB43-FB44=5E3.5BC,5E4.5BC",
  "FB46-FB4E=5E6.5BC,5E7.5BC,5E8.5BC,5E9.5BC,5EA.5BC,5D5.5B9,5D1.5BF,5DB.5BF,5E4.5BF",
  "FB4F-FB60=5D0.5DC,671,671,67B,67B,67B,67B,67E,67E,67E,67E,680,680,680,680,67A,67A,67A",
  "FB61-FB73=67A,67F,67F,67F,67F,679,679,679,679,6A4,6A4,6A4,6A4,6A6,6A6,6A6,6A6,684,684",
  "FB74-FB86=684,684,683,683,683,683,686,686,686,686,687,687,687,687,68D,68D,68C,68C,68E",
  "FB87-FB99=68E,688,688,698,698,691,691,6A9,6A9,6A9,6A9,6AF,6AF,6AF,6AF,6B3,6B3,6B3,6B3",
  "FB9A-FBAC=6B1,6B1,6B1,6B1,6BA,6BA,6BB,6BB,6BB,6BB,6C0,6C0,6C1,6C1,6C1,6C1,6BE,6BE,6BE",
  "FBAD-FBB1=6BE,6D2,6D2,6D3,6D3",
  "FBD3-FBE4=6AD,6AD,6AD,6AD,6C7,6C7,6C6,6C6,6C8,6C8,6C7.674,6CB,6CB,6C5,6C5,6C9,6C9,6D0",
  "FBE5-FBF0=6D0,6D0,6D0,649,649,626.627,626.627,626.6D5,626.6D5,626.648,626.648,626.6C7",
  "FBF1-FBF9=626.6C7,626.6C6,626.6C6,626.6C8,626.6C8,626.6D0,626.6D0,626.6D0,626.649",
  "FBFA-FC04=626.649,626.649,6CC,6CC,6CC,6CC,626.62C,626.62D,626.645,626.649,626.64A",
  "FC05-FC0D=628.62C,628.62D,628.62E,628.645,628.649,628.64A,62A.62C,62A.62D,62A.62E",
  "FC0E-FC16=62A.645,62A.649,62A.64A,62B.62C,62B.645,62B.649,62B.64A,62C.62D,62C.645",
  "FC17-FC1F=62D.62C,62D.645,62E.62C,62E.62D,62E.645,633.62C,633.62D,633.62E,633.645",
  "FC20-FC28=635.62D,635.645,636.62C,636.62D,636.62E,636.645,637.62D,637.645,638.645",
  "FC29-FC31=639.62C,639.645,63A.62C,63A.645,641.62C,641.62D,641.62E,641.645,641.649",
  "FC32-FC3A=641.64A,642.62D,642.645,642.649,642.64A,643.627,643.62C,643.62D,643.62E",
  "FC3B-FC43=643.644,643.645,643.649,643.64A,644.62C,644.62D,644.62E,644.645,644.649",
  "FC44-FC4C=644.64A,645.62C,645.62D,645.62E,645.645,645.649,645.64A,646.62C,646.62D",
  "FC4D-FC55=646.62E,646.645,646.649,646.64A,647.62C,647.645,647.649,647.64A,64A.62C",
  "FC56-FC5E=64A.62D,64A.62E,64A.645,64A.649,64A.64A,630.670,631.670,649.670,20.64C.651",
  "FC5F-FC65=20.64D.651,20.64E.651,20.64F.651,20.650.651,20.651.670,626.631,626.632",
  "FC66-FC6E=626.645,626.646,626.649,626.64A,628.631,628.632,628.645,628.646,628.649",
  "FC6F-FC77=628.64A,62A.631,62A.632,62A.645,62A.646,62A.649,62A.64A,62B.631,62B.632",
  "FC78-FC80=62B.645,62B.646,62B.649,62B.64A,641.649,641.64A,642.649,642.64A,643.627",
  "FC81-FC89=643.644,643.645,643.649,643.64A,644.645,644.649,644.64A,645.627,645.645",
  "FC8A-FC92=646.631,646.632,646.645,646.646,646.649,646.64A,649.670,64A.631,64A.632",
  "FC93-FC9B=64A.645,64A.646,64A.649,64A.64A,626.62C,626.62D,626.62E,626.645,626.647",
  "FC9C-FCA4=628.62C,628.62D,628.62E,628.645,628.647,62A.62C,62A.62D,62A.62E,62A.645",
  "FCA5-FCAD=62A.647,62B.645,62C.62D,62C.645,62D.62C,62D.645,62E.62C,62E.645,633.62C",
  "FCAE-FCB6=633.62D,633.62E,633.645,635.62D,635.62E,635.645,636.62C,636.62D,636.62E",
  "FCB7-FCBF=636.645,637.62D,638.645,639.62C,639.645,63A.62C,63A.645,641.62C,641.62D",
  "FCC0-FCC8=641.62E,641.645,642.62D,642.645,643.62C,643.62D,643.62E,643.644,643.645",
  "FCC9-FCD1=644.62C,644.62D,644.62E,644.645,644.647,645.62C,645.62D,645.62E,645.645",
  "FCD2-FCDA=646.62C,646.62D,646.62E,646.645,646.647,647.62C,647.645,647.670,64A.62C",
  "FCDB-FCE3=64A.62D,64A.62E,64A.645,64A.647,626.645,626.647,628.645,628.647,62A.645",
  "FCE4-FCEC=62A.647,62B.645,62B.647,633.645,633.647,634.645,634.647,643.644,643.645",
  "FCED-FCF4=644.645,646.645,646.647,64A.645,64A.647,640.64E.651,640.64F.651,640.650.651",
  "FCF5-FCFD=637.649,637.64A,639.649,639.64A,63A.649,63A.64A,633.649,633.64A,634.649",
  "FCFE-FD06=634.64A,62D.649,62D.64A,62C.649,62C.64A,62E.649,62E.64A,635.649,635.64A",
  "FD07-FD0F=636.649,636.64A,634.62C,634.62D,634.62E,634.645,634.631,633.631,635.631",
  "FD10-FD18=636.631,637.649,637.64A,639.649,639.64A,63A.649,63A.64A,633.649,633.64A",
  "FD19-FD21=634.649,634.64A,62D.649,62D.64A,62C.649,62C.64A,62E.649,62E.64A,635.649",
  "FD22-FD2A=635.64A,636.649,636.64A,634.62C,634.62D,634.62E,634.645,634.631,633.631",
  "FD2B-FD33=635.631,636.631,634.62C,634.62D,634.62E,634.645,633.647,634.647,637.645",
  "FD34-FD3C=633.62C,633.62D,633.62E,634.62C,634.62D,634.62E,637.645,638.645,627.64B FD3D=627.64B",
  "FD50-FD55=62A.62C.645,62A.62D.62C,62A.62D.62C,62A.62D.645,62A.62E.645,62A.645.62C",
  "FD56-FD5B=62A.645.62D,62A.645.62E,62C.645.62D,62C.645.62D,62D.645.64A,62D.645.649",
  "FD5C-FD61=633.62D.62C,633.62C.62D,633.62C.649,633.645.62D,633.645.62D,633.645.62C",
  "FD62-FD67=633.645.645,633.645.645,635.62D.62D,635.62D.62D,635.645.645,634.62D.645",
  "FD68-FD6D=634.62D.645,634.62C.64A,634.645.62E,634.645.62E,634.645.645,634.645.645",
  "FD6E-FD73=636.62D.649,636.62E.645,636.62E.645,637.645.62D,637.645.62D,637.645.645",
  "FD74-FD79=637.645.64A,639.62C.645,639.645.645,639.645.645,639.645.649,63A.645.645",
  "FD7A-FD7F=63A.645.64A,63A.645.649,641.62E.645,641.62E.645,642.645.62D,642.645.645",
  "FD80-FD85=644.62D.645,644.62D.64A,644.62D.649,644.62C.62C,644.62C.62C,644.62E.645",
  "FD86-FD8B=644.62E.645,644.645.62D,644.645.62D,645.62D.62C,645.62D.645,645.62D.64A",
  "FD8C-FD8F=645.62C.62D,645.62C.645,645.62E.62C,645.62E.645",
  "FD92-FD97=645.62C.62E,647.645.62C,647.645.645,646.62D.645,646.62D.649,646.62C.645",
  "FD98-FD9D=646.62C.645,646.62C.649,646.645.64A,646.645.649,64A.645.645,64A.645.645",
  "FD9E-FDA3=628.62E.64A,62A.62C.64A,62A.62C.649,62A.62E.64A,62A.62E.649,62A.645.64A",
  "FDA4-FDA9=62A.645.649,62C.645.64A,62C.62D.649,62C.645.649,633.62E.649,635.62D.64A",
  "FDAA-FDAF=634.62D.64A,636.62D.64A,644.62C.64A,644.645.64A,64A.62D.64A,64A.62C.64A",
  "FDB0-FDB5=64A.645.64A,645.645.64A,642.645.64A,646.62D.64A,642.645.62D,644.62D.645",
  "FDB6-FDBB=639.645.64A,643.645.64A,646.62C.62D,645.62E.64A,644.62C.645,643.645.645",
  "FDBC-FDC1=644.62C.645,646.62C.62D,62C.62D.64A,62D.62C.64A,645.62C.64A,641.645.64A",
  "FDC2-FDC7=628.62D.64A,643.645.645,639.62C.645,635.645.645,633.62E.64A,646.62C.64A",
  "FDF0-FDF4=635.644.6D2,642.644.6D2,627.644.644.647,627.643.628.631,645.62D.645.62F",
  "FDF5-FDF9=635.644.639.645,631.633.648.644,639.644.64A.647,648.633.644.645,635.644.649",
  "FDFA=635.644.649.20.627.644.644.647.20.639.644.64A.647.20.648.633.644.645",
  "FDFB-FDFC=62C.644.20.62C.644.627.644.647,631.6CC.627.644 FE10-FE11=2C,3001",
  "FE13-FE18=3A,3B,21,3F,3016,3017",
  "FE31-FE40=2014,2013,5F,5F,28,29,7B,7D,3014,3015,3010,3011,300A,300B,3008,3009 FE41-FE44=300C",
  "FE47-FE51=5B,5D,20.305,20.305,20.305,20.305,5F,5F,5F,2C,3001",
  "FE54-FE66=3B,3A,3F,21,2014,28,29,7B,7D,3014,3015,23,26,2A,2B,2D,3C,3E,3D FE68-FE6B=5C,24,25,40",
  "FE70-FE72=20.64B,640.64B,20.64C FE74=20.64D",
  "FE76-FE7F=20.64E,640.64E,20.64F,640.64F,20.650,640.650,20.651,640.651,20.652,640.652",
  "FE80-FE92=621,622,622,623,623,624,624,625,625,626,626,626,626,627,627,628,628,628,628",
  "FE93-FEA5=629,629,62A,62A,62A,62A,62B,62B,62B,62B,62C,62C,62C,62C,62D,62D,62D,62D,62E",
  "FEA6-FEB8=62E,62E,62E,62F,62F,630,630,631,631,632,632,633,633,633,633,634,634,634,634",
  "FEB9-FECB=635,635,635,635,636,636,636,636,637,637,637,637,638,638,638,638,639,639,639",
  "FECC-FEDE=639,63A,63A,63A,63A,641,641,641,641,642,642,642,642,643,643,643,643,644,644",
  "FEDF-FEF1=644,644,645,645,645,645,646,646,646,646,647,647,647,647,648,648,649,649,64A",
  "FEF2-FEFC=64A,64A,64A,644.622,644.622,644.623,644.623,644.625,644.625,644.627,644.627",
  "FF01-FF20=21 FF21-FF3A=61 FF3B-FF5E=5B",
  "FF5F-FF6E=2985,2986,2E,300C,300D,3001,30FB,30F2,30A1,30A3,30A5,30A7,30A9,30E3,30E5,30E7",
  "FF6F-FF7D=30C3,30FC,30A2,30A4,30A6,30A8,30AA,30AB,30AD,30AF,30B1,30B3,30B5,30B7,30B9",
  "FF7E-FF84=30BB,30BD,30BF,30C1,30C4,30C6,30C8 FF85-FF8A=30CA FF8B-FF8E=30D2,30D5,30D8,30DB",
  "FF8F-FF93=30DE FF94-FF95=30E4,30E6 FF96-FF9B=30E8 FF9C-FF9F=30EF,30F3,3099,309A",
  "FFA1-FFA6=1100,1101,11AA,1102,11AC,11AD FFA7-FFA9=1103 FFAA-FFAF=11B0 FFB0=111A FFB1-FFB3=1106",
  "FFB4=1121 FFB5-FFBE=1109 FFC2-FFC7=1161 FFCA-FFCF=1167 FFD2-FFD7=116D FFDA-FFDC=1173",
  "FFE0-FFE6=A2,A3,AC,20.304,A6,A5,20A9 FFE8=2502 FFE9-FFEC=2190 FFED-FFEE=25A0,25CB",
  "1EE00-1EE03=627,628,62C,62F 1EE05-1EE09=648,632,62D,637,64A 1EE0A-1EE0D=643",
  "1EE0E-1EE1F=633,639,641,635,642,631,634,62A,62B,62E,630,636,638,63A,66E,6BA,6A1,66F",
  "1EE21-1EE22=628,62C 1EE24=647 1EE27=62D 1EE29=64A 1EE2A-1EE2D=643",
  "1EE2E-1EE32=633,639,641,635,642 1EE34-1EE37=634,62A,62B,62E 1EE39=636 1EE3B=63A 1EE42=62C",
  "1EE47=62D 1EE49=64A 1EE4B=644 1EE4D-1EE4F=646,633,639 1EE51-1EE52=635,642 1EE54=634 1EE57=62E",
  "1EE59=636 1EE5B=63A 1EE5D=6BA 1EE5F=66F 1EE61-1EE62=628,62C 1EE64=647",
  "1EE67-1EE6A=62D,637,64A,643 1EE6C-1EE72=645,646,633,639,641,635,642",
  "1EE74-1EE77=634,62A,62B,62E 1EE79-1EE7C=636,638,63A,66E 1EE7E=6A1",
  "1EE80-1EE89=627,628,62C,62F,647,648,632,62D,637,64A 1EE8B-1EE8D=644",
  "1EE8E-1EE9B=633,639,641,635,642,631,634,62A,62B,62E,630,636,638,63A 1EEA1-1EEA3=628,62C,62F",
  "1EEA5-1EEA9=648,632,62D,637,64A 1EEAB-1EEAD=644",
  "1EEAE-1EEBB=633,639,641,635,642,631,634,62A,62B,62E,630,636,638,63A"]

end CandleRelay.Net.Folding
