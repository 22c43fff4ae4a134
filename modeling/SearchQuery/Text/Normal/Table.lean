import SearchQuery.Text.Hex

/-!
# Tables of the normal form

The tables tell, for the characters that names may hold, which character and mark make up another
character, what a character stands for that is only a way of writing others, and in which order
marks are written.

## Shape of the tables

Code points are written in hexadecimal. `compositionLines` lists for each mark, in front of the
colon, what it makes of which character. `equivalentLines` lists what consecutive characters, the
first of which stands in front of the colon, stand for: code points with points between them, or
`x*n` for the next `n` of the characters, which stand for those from `x` on. `markLines` lists for
each class of marks, in front of the colon, the marks and runs of marks that are of the class.
-/

namespace SearchQuery.Text

/-- What marks make of characters. -/
def compositionLines : List String := [
  "300:41=c0,45=c8,49=cc,4e=1f8,4f=d2,55=d9,57=1e80,59=1ef2,61=e0,65=e8,69=ec,6e=1f9,6f=f2",
  "300:75=f9,77=1e81,79=1ef3,c2=1ea6,ca=1ec0,d4=1ed2,dc=1db,e2=1ea7,ea=1ec1,f4=1ed3,fc=1dc",
  "300:102=1eb0,103=1eb1,112=1e14,113=1e15,14c=1e50,14d=1e51,1a0=1edc,1a1=1edd,1af=1eea",
  "300:1b0=1eeb,391=1fba,395=1fc8,397=1fca,399=1fda,39f=1ff8,3a5=1fea,3a9=1ffa,3b1=1f70",
  "300:3b5=1f72,3b7=1f74,3b9=1f76,3bf=1f78,3c5=1f7a,3c9=1f7c,3ca=1fd2,3cb=1fe2,415=400,418=40d",
  "300:435=450,438=45d,1f00=1f02,1f01=1f03,1f08=1f0a,1f09=1f0b,1f10=1f12,1f11=1f13,1f18=1f1a",
  "300:1f19=1f1b,1f20=1f22,1f21=1f23,1f28=1f2a,1f29=1f2b,1f30=1f32,1f31=1f33,1f38=1f3a",
  "300:1f39=1f3b,1f40=1f42,1f41=1f43,1f48=1f4a,1f49=1f4b,1f50=1f52,1f51=1f53,1f59=1f5b",
  "300:1f60=1f62,1f61=1f63,1f68=1f6a,1f69=1f6b",
  "301:41=c1,43=106,45=c9,47=1f4,49=cd,4b=1e30,4c=139,4d=1e3e,4e=143,4f=d3,50=1e54,52=154",
  "301:53=15a,55=da,57=1e82,59=dd,5a=179,61=e1,63=107,65=e9,67=1f5,69=ed,6b=1e31,6c=13a,6d=1e3f",
  "301:6e=144,6f=f3,70=1e55,72=155,73=15b,75=fa,77=1e83,79=fd,7a=17a,c2=1ea4,c5=1fa,c6=1fc",
  "301:c7=1e08,ca=1ebe,cf=1e2e,d4=1ed0,d5=1e4c,d8=1fe,dc=1d7,e2=1ea5,e5=1fb,e6=1fd,e7=1e09",
  "301:ea=1ebf,ef=1e2f,f4=1ed1,f5=1e4d,f8=1ff,fc=1d8,102=1eae,103=1eaf,112=1e16,113=1e17",
  "301:14c=1e52,14d=1e53,168=1e78,169=1e79,1a0=1eda,1a1=1edb,1af=1ee8,1b0=1ee9,391=386,395=388",
  "301:397=389,399=38a,39f=38c,3a5=38e,3a9=38f,3b1=3ac,3b5=3ad,3b7=3ae,3b9=3af,3bf=3cc,3c5=3cd",
  "301:3c9=3ce,3ca=390,3cb=3b0,3d2=3d3,413=403,41a=40c,433=453,43a=45c,1f00=1f04,1f01=1f05",
  "301:1f08=1f0c,1f09=1f0d,1f10=1f14,1f11=1f15,1f18=1f1c,1f19=1f1d,1f20=1f24,1f21=1f25",
  "301:1f28=1f2c,1f29=1f2d,1f30=1f34,1f31=1f35,1f38=1f3c,1f39=1f3d,1f40=1f44,1f41=1f45",
  "301:1f48=1f4c,1f49=1f4d,1f50=1f54,1f51=1f55,1f59=1f5d,1f60=1f64,1f61=1f65,1f68=1f6c",
  "301:1f69=1f6d",
  "302:41=c2,43=108,45=ca,47=11c,48=124,49=ce,4a=134,4f=d4,53=15c,55=db,57=174,59=176,5a=1e90",
  "302:61=e2,63=109,65=ea,67=11d,68=125,69=ee,6a=135,6f=f4,73=15d,75=fb,77=175,79=177,7a=1e91",
  "302:1ea0=1eac,1ea1=1ead,1eb8=1ec6,1eb9=1ec7,1ecc=1ed8,1ecd=1ed9",
  "303:41=c3,45=1ebc,49=128,4e=d1,4f=d5,55=168,56=1e7c,59=1ef8,61=e3,65=1ebd,69=129,6e=f1,6f=f5",
  "303:75=169,76=1e7d,79=1ef9,c2=1eaa,ca=1ec4,d4=1ed6,e2=1eab,ea=1ec5,f4=1ed7,102=1eb4,103=1eb5",
  "303:1a0=1ee0,1a1=1ee1,1af=1eee,1b0=1eef",
  "304:41=100,45=112,47=1e20,49=12a,4f=14c,55=16a,59=232,61=101,65=113,67=1e21,69=12b,6f=14d",
  "304:75=16b,79=233,c4=1de,c6=1e2,d5=22c,d6=22a,dc=1d5,e4=1df,e6=1e3,f5=22d,f6=22b,fc=1d6",
  "304:1ea=1ec,1eb=1ed,226=1e0,227=1e1,22e=230,22f=231,391=1fb9,399=1fd9,3a5=1fe9,3b1=1fb1",
  "304:3b9=1fd1,3c5=1fe1,418=4e2,423=4ee,438=4e3,443=4ef,1e36=1e38,1e37=1e39,1e5a=1e5c",
  "304:1e5b=1e5d",
  "306:41=102,45=114,47=11e,49=12c,4f=14e,55=16c,61=103,65=115,67=11f,69=12d,6f=14f,75=16d",
  "306:228=1e1c,229=1e1d,391=1fb8,399=1fd8,3a5=1fe8,3b1=1fb0,3b9=1fd0,3c5=1fe0,410=4d0,415=4d6",
  "306:416=4c1,418=419,423=40e,430=4d1,435=4d7,436=4c2,438=439,443=45e,1ea0=1eb6,1ea1=1eb7",
  "307:41=226,42=1e02,43=10a,44=1e0a,45=116,46=1e1e,47=120,48=1e22,49=130,4d=1e40,4e=1e44",
  "307:4f=22e,50=1e56,52=1e58,53=1e60,54=1e6a,57=1e86,58=1e8a,59=1e8e,5a=17b,61=227,62=1e03",
  "307:63=10b,64=1e0b,65=117,66=1e1f,67=121,68=1e23,6d=1e41,6e=1e45,6f=22f,70=1e57,72=1e59",
  "307:73=1e61,74=1e6b,77=1e87,78=1e8b,79=1e8f,7a=17c,15a=1e64,15b=1e65,160=1e66,161=1e67",
  "307:17f=1e9b,1e62=1e68,1e63=1e69",
  "308:41=c4,45=cb,48=1e26,49=cf,4f=d6,55=dc,57=1e84,58=1e8c,59=178,61=e4,65=eb,68=1e27,69=ef",
  "308:6f=f6,74=1e97,75=fc,77=1e85,78=1e8d,79=ff,d5=1e4e,f5=1e4f,16a=1e7a,16b=1e7b,399=3aa",
  "308:3a5=3ab,3b9=3ca,3c5=3cb,3d2=3d4,406=407,410=4d2,415=401,416=4dc,417=4de,418=4e4,41e=4e6",
  "308:423=4f0,427=4f4,42b=4f8,42d=4ec,430=4d3,435=451,436=4dd,437=4df,438=4e5,43e=4e7,443=4f1",
  "308:447=4f5,44b=4f9,44d=4ed,456=457,4d8=4da,4d9=4db,4e8=4ea,4e9=4eb",
  "309:41=1ea2,45=1eba,49=1ec8,4f=1ece,55=1ee6,59=1ef6,61=1ea3,65=1ebb,69=1ec9,6f=1ecf,75=1ee7",
  "309:79=1ef7,c2=1ea8,ca=1ec2,d4=1ed4,e2=1ea9,ea=1ec3,f4=1ed5,102=1eb2,103=1eb3,1a0=1ede",
  "309:1a1=1edf,1af=1eec,1b0=1eed 30a:41=c5,55=16e,61=e5,75=16f,77=1e98,79=1e99",
  "30b:4f=150,55=170,6f=151,75=171,423=4f2,443=4f3",
  "30c:41=1cd,43=10c,44=10e,45=11a,47=1e6,48=21e,49=1cf,4b=1e8,4c=13d,4e=147,4f=1d1,52=158",
  "30c:53=160,54=164,55=1d3,5a=17d,61=1ce,63=10d,64=10f,65=11b,67=1e7,68=21f,69=1d0,6a=1f0",
  "30c:6b=1e9,6c=13e,6e=148,6f=1d2,72=159,73=161,74=165,75=1d4,7a=17e,dc=1d9,fc=1da,1b7=1ee",
  "30c:292=1ef",
  "30f:41=200,45=204,49=208,4f=20c,52=210,55=214,61=201,65=205,69=209,6f=20d,72=211,75=215",
  "30f:474=476,475=477",
  "311:41=202,45=206,49=20a,4f=20e,52=212,55=216,61=203,65=207,69=20b,6f=20f,72=213,75=217",
  "313:391=1f08,395=1f18,397=1f28,399=1f38,39f=1f48,3a9=1f68,3b1=1f00,3b5=1f10,3b7=1f20",
  "313:3b9=1f30,3bf=1f40,3c1=1fe4,3c5=1f50,3c9=1f60",
  "314:391=1f09,395=1f19,397=1f29,399=1f39,39f=1f49,3a1=1fec,3a5=1f59,3a9=1f69,3b1=1f01",
  "314:3b5=1f11,3b7=1f21,3b9=1f31,3bf=1f41,3c1=1fe5,3c5=1f51,3c9=1f61",
  "31b:4f=1a0,55=1af,6f=1a1,75=1b0",
  "323:41=1ea0,42=1e04,44=1e0c,45=1eb8,48=1e24,49=1eca,4b=1e32,4c=1e36,4d=1e42,4e=1e46,4f=1ecc",
  "323:52=1e5a,53=1e62,54=1e6c,55=1ee4,56=1e7e,57=1e88,59=1ef4,5a=1e92,61=1ea1,62=1e05,64=1e0d",
  "323:65=1eb9,68=1e25,69=1ecb,6b=1e33,6c=1e37,6d=1e43,6e=1e47,6f=1ecd,72=1e5b,73=1e63,74=1e6d",
  "323:75=1ee5,76=1e7f,77=1e89,79=1ef5,7a=1e93,1a0=1ee2,1a1=1ee3,1af=1ef0,1b0=1ef1",
  "324:55=1e72,75=1e73 325:41=1e00,61=1e01 326:53=218,54=21a,73=219,74=21b",
  "327:43=c7,44=1e10,45=228,47=122,48=1e28,4b=136,4c=13b,4e=145,52=156,53=15e,54=162,63=e7",
  "327:64=1e11,65=229,67=123,68=1e29,6b=137,6c=13c,6e=146,72=157,73=15f,74=163",
  "328:41=104,45=118,49=12e,4f=1ea,55=172,61=105,65=119,69=12f,6f=1eb,75=173",
  "32d:44=1e12,45=1e18,4c=1e3c,4e=1e4a,54=1e70,55=1e76,64=1e13,65=1e19,6c=1e3d,6e=1e4b,74=1e71",
  "32d:75=1e77 32e:48=1e2a,68=1e2b 330:45=1e1a,49=1e2c,55=1e74,65=1e1b,69=1e2d,75=1e75",
  "331:42=1e06,44=1e0e,4b=1e34,4c=1e3a,4e=1e48,52=1e5e,54=1e6e,5a=1e94,62=1e07,64=1e0f,68=1e96",
  "331:6b=1e35,6c=1e3b,6e=1e49,72=1e5f,74=1e6f,7a=1e95",
  "342:3b1=1fb6,3b7=1fc6,3b9=1fd6,3c5=1fe6,3c9=1ff6,3ca=1fd7,3cb=1fe7,1f00=1f06,1f01=1f07",
  "342:1f08=1f0e,1f09=1f0f,1f20=1f26,1f21=1f27,1f28=1f2e,1f29=1f2f,1f30=1f36,1f31=1f37",
  "342:1f38=1f3e,1f39=1f3f,1f50=1f56,1f51=1f57,1f59=1f5f,1f60=1f66,1f61=1f67,1f68=1f6e",
  "342:1f69=1f6f",
  "345:391=1fbc,397=1fcc,3a9=1ffc,3ac=1fb4,3ae=1fc4,3b1=1fb3,3b7=1fc3,3c9=1ff3,3ce=1ff4",
  "345:1f00=1f80,1f01=1f81,1f02=1f82,1f03=1f83,1f04=1f84,1f05=1f85,1f06=1f86,1f07=1f87",
  "345:1f08=1f88,1f09=1f89,1f0a=1f8a,1f0b=1f8b,1f0c=1f8c,1f0d=1f8d,1f0e=1f8e,1f0f=1f8f",
  "345:1f20=1f90,1f21=1f91,1f22=1f92,1f23=1f93,1f24=1f94,1f25=1f95,1f26=1f96,1f27=1f97",
  "345:1f28=1f98,1f29=1f99,1f2a=1f9a,1f2b=1f9b,1f2c=1f9c,1f2d=1f9d,1f2e=1f9e,1f2f=1f9f",
  "345:1f60=1fa0,1f61=1fa1,1f62=1fa2,1f63=1fa3,1f64=1fa4,1f65=1fa5,1f66=1fa6,1f67=1fa7",
  "345:1f68=1fa8,1f69=1fa9,1f6a=1faa,1f6b=1fab,1f6c=1fac,1f6d=1fad,1f6e=1fae,1f6f=1faf",
  "345:1f70=1fb2,1f74=1fc2,1f7c=1ff2,1fb6=1fb7,1fc6=1fc7,1ff6=1ff7 653:627=622",
  "654:627=623,648=624,64a=626,6c1=6c2,6d2=6d3,6d5=6c0 655:627=625 93c:928=929,930=931,933=934",
  "9be:9c7=9cb 9d7:9c7=9cc b3e:b47=b4b b56:b47=b48 b57:b47=b4c bbe:bc6=bca,bc7=bcb",
  "bd7:b92=b94,bc6=bcc c56:c46=c48 cc2:cc6=cca cd5:cbf=cc0,cc6=cc7,cca=ccb cd6:cc6=cc8",
  "d3e:d46=d4a,d47=d4b d57:d46=d4c dca:dd9=dda,ddc=ddd dcf:dd9=ddc ddf:dd9=dde 102e:1025=1026",
  "1b35:1b05=1b06,1b07=1b08,1b09=1b0a,1b0b=1b0c,1b0d=1b0e,1b11=1b12,1b3a=1b3b,1b3c=1b3d",
  "1b35:1b3e=1b40,1b3f=1b41,1b42=1b43",
  "3099:3046=3094,304b=304c,304d=304e,304f=3050,3051=3052,3053=3054,3055=3056,3057=3058",
  "3099:3059=305a,305b=305c,305d=305e,305f=3060,3061=3062,3064=3065,3066=3067,3068=3069",
  "3099:306f=3070,3072=3073,3075=3076,3078=3079,307b=307c,309d=309e,30a6=30f4,30ab=30ac",
  "3099:30ad=30ae,30af=30b0,30b1=30b2,30b3=30b4,30b5=30b6,30b7=30b8,30b9=30ba,30bb=30bc",
  "3099:30bd=30be,30bf=30c0,30c1=30c2,30c4=30c5,30c6=30c7,30c8=30c9,30cf=30d0,30d2=30d3",
  "3099:30d5=30d6,30d8=30d9,30db=30dc,30ef=30f7,30f0=30f8,30f1=30f9,30f2=30fa,30fd=30fe",
  "309a:306f=3071,3072=3074,3075=3077,3078=307a,307b=307d,30cf=30d1,30d2=30d4,30d5=30d7",
  "309a:30d8=30da,30db=30dd 110ba:11099=1109a,1109b=1109c,110a5=110ab 11127:11131=1112e,11132=1112f",
  "1133e:11347=1134b 11357:11347=1134c 114b0:114b9=114bc 114ba:114b9=114bb 114bd:114b9=114be",
  "115af:115b8=115ba,115b9=115bb 11930:11935=11938"]

/-- What characters stand for that are only ways of writing others. -/
def equivalentLines : List String := [
  "aa:61 b5:3bc ba:6f 132:49.4a,69.6a 13f:4c.b7,6c.b7 149:2bc.6e 17f:73",
  "1c4:44.5a.30c,44.7a.30c,64.7a.30c,4c.4a,4c.6a,6c.6a,4e.4a,4e.6a,6e.6a 1f1:44.5a,44.7a,64.7a",
  "2b0:68,266,6a,72,279,27b,281,77,79 2e0:263,6c,73,78,295 340:300*2 343:313,308.301 374:2b9 387:b7",
  "3d0:3b2,3b8,3a5 3d5:3c6,3c0 3f0:3ba,3c1*2 3f4:398,3b5 3f9:3a3 587:565.582",
  "675:627.674,648.674,6c7.674,64a.674",
  "958:915.93c,916.93c,917.93c,91c.93c,921.93c,922.93c,92b.93c,92f.93c 9dc:9a1.9bc,9a2.9bc",
  "9df:9af.9bc a33:a32.a3c a36:a38.a3c a59:a16.a3c,a17.a3c,a1c.a3c a5e:a2b.a3c b5c:b21.b3c,b22.b3c",
  "e33:e4d.e32 eb3:ecd.eb2 edc:eab.e99,eab.ea1 f43:f42.fb7 f4d:f4c.fb7 f52:f51.fb7 f57:f56.fb7",
  "f5c:f5b.fb7 f69:f40.fb5 f73:f71.f72 f75:f71.f74,fb2.f80,fb2.f71.f80,fb3.f80,fb3.f71.f80",
  "f81:f71.f80 f93:f92.fb7 f9d:f9c.fb7 fa2:fa1.fb7 fa7:fa6.fb7 fac:fab.fb7 fb9:f90.fb5 10fc:10dc",
  "1d2c:41,c6,42 1d30:44*2,18e,47*8 1d3c:4f,222,50,52,54*2,57,61,250*2,1d02,62,64*2,259,25b*2,67",
  "1d4f:6b,6d,14b,6f,254,1d16*2,70,74*2,1d1d,26f,76,1d25,3b2*3,3c6*2,69,72,75*2,3b2*2,3c1,3c6*2",
  "1d78:43d",
  "1d9b:252,63,255,f0,25c,66,25f,261,265,268*3,1d7b,29d,26d,1d85,29f,271,270,272*4,278,282*2",
  "1db5:1ab,289*2,1d1c,28b*2,7a,290*3,3b8 1e9a:61.2be 1f71:3b1.301 1f73:3b5.301 1f75:3b7.301",
  "1f77:3b9.301 1f79:3bf.301 1f7b:3c5.301 1f7d:3c9.301 1fbb:391.301 1fbe:3b9 1fc9:395.301",
  "1fcb:397.301 1fd3:3b9.308.301 1fdb:399.301 1fe3:3c5.308.301 1feb:3a5.301 1ff9:39f.301",
  "1ffb:3a9.301 2071:69 207f:6e 2090:61,65,6f,78,259,68,6b*4,70,73*2 2102:43 2107:190",
  "210a:67,48,48,48,68,127,49,49,4c,6c 2115:4e 2119:50*3,52,52 2124:5a 2126:3a9 2128:5a",
  "212a:4b,41.30a,42*2 212f:65,45*2 2133:4d,6f,5d0*4,69 213c:3c0,3b3,393,3a0 2145:44,64*2,69*2",
  "2160:49,49.49,49.49.49,49.56,56,56.49,56.49.49,56.49.49.49,49.58,58,58.49,58.49.49,4c,43*2",
  "216f:4d,69,69.69,69.69.69,69.76,76,76.69,76.69.69,76.69.69.69,69.78,78,78.69,78.69.69,6c",
  "217d:63*2,6d 2c7c:6a,56 2d6f:2d61 3038:5341,5344*2 309f:3088.308a 30ff:30b3.30c8",
  "3131:1100*2,11aa,1102,11ac*2,1103*3,11b0*6,111a,1106*3,1121,1109*10,1161*21,1160,1114*2",
  "3167:11c7*2,11cc,11ce,11d3,11d7,11d9,111c,11dd,11df,111d*2,1120,1122*2,1127,1129,112b*5,1132",
  "317e:1136,1140,1147,114c,11f1*2,1157*3,1184*2,1188,1191*2,1194,119e,11a1 a69c:44a,44c a770:a76f",
  "a7f2:43,46,51 a7f8:126,153 ab5c:a727,ab37,26b,ab52 ab69:28d",
  "f900:8c48,66f4,8eca,8cc8,6ed1,4e32,53e5,9f9c,9f9c,5951,91d1,5587,5948,61f6,7669,7f85,863f",
  "f911:87ba,88f8,908f,6a02,6d1b,70d9,73de,843d,916a,99f1,4e82,5375,6b04,721b,862d,9e1e,5d50",
  "f922:6feb,85cd,8964,62c9,81d8,881f,5eca,6717,6d6a,72fc,90ce,4f86,51b7,52de,64c4,6ad3,7210",
  "f933:76e7,8001,8606,865c,8def,9732,9b6f,9dfa,788c,797f,7da0,83c9,9304,9e7f,8ad6,58df,5f04",
  "f944:7c60,807e,7262,78ca,8cc2,96f7,58d8,5c62,6a13,6dda,6f0f,7d2f,7e37,964b,52d2,808b,51dc",
  "f955:51cc,7a1c,7dbe,83f1,9675,8b80,62cf,6a02,8afe,4e39,5be7,6012,7387,7570,5317,78fb,4fbf",
  "f966:5fa9,4e0d,6ccc,6578,7d22,53c3,585e,7701,8449,8aaa,6bba,8fb0,6c88,62fe,82e5,63a0,7565",
  "f977:4eae,5169,51c9,6881,7ce7,826f,8ad2,91cf,52f5,5442,5973,5eec,65c5,6ffe,792a,95ad,9a6a",
  "f988:9e97,9ece,529b,66c6,6b77,8f62,5e74,6190,6200,649a,6f23,7149,7489,79ca,7df4,806f,8f26",
  "f999:84ee,9023,934a,5217,52a3,54bd,70c8,88c2,8aaa,5ec9,5ff5,637b,6bae,7c3e,7375,4ee4,56f9",
  "f9aa:5be7,5dba,601c,73b2,7469,7f9a,8046,9234,96f6,9748,9818,4f8b,79ae,91b4,96b8,60e1,4e86",
  "f9bb:50da,5bee,5c3f,6599,6a02,71ce,7642,84fc,907c,9f8d,6688,962e,5289,677b,67f3,6d41,6e9c",
  "f9cc:7409,7559,786b,7d10,985e,516d,622e,9678,502b,5d19,6dea,8f2a,5f8b,6144,6817,7387,9686",
  "f9dd:5229,540f,5c65,6613,674e,68a8,6ce5,7406,75e2,7f79,88cf,88e1,91cc,96e2,533f,6eba,541d",
  "f9ee:71d0,7498,85fa,96a3,9c57,9e9f,6797,6dcb,81e8,7acb,7b20,7c92,72c0,7099,8b58,4ec0,8336",
  "f9ff:523a,5207,5ea6,62d3,7cd6,5b85,6d1e,66b4,8f3b,884c,964d,898b,5ed3,5140,55c0 fa10:585a",
  "fa12:6674 fa15:51de,732a,76ca,793c,795e,7965,798f,9756,7cbe,7fbd fa20:8612 fa22:8af8",
  "fa25:9038,90fd",
  "fa2a:98ef,98fc,9928,9db4,90de,96b7,4fae,50e7,514d,52c9,52e4,5351,559d,5606,5668,5840,58a8",
  "fa3b:5c64,5c6e,6094,6168,618e,61f2,654f,65e2,6691,6885,6d77,6e1a,6f22,716e,722b,7422,7891",
  "fa4c:793e,7949,7948,7950,7956,795d,798d*2,7a40,7a81,7bc0,7df4,7e09,7e41,7f72,8005,81ed,8279",
  "fa5e:8279,8457,8910,8996,8b01,8b39,8cd3,8d08,8fb6,9038,96e3,97ff,983b,6075,242ee,8218",
  "fa70:4e26,51b5,5168,4f80,5145,5180,52c7,52fa,559d,5555,5599,55e2,585a,58b3,5944,5954,5a62",
  "fa81:5b28,5ed2,5ed9,5f69,5fad,60d8,614e,6108,618e,6160,61f2,6234,63c4,641c,6452,6556,6674",
  "fa92:6717,671b,6756,6b79,6bba,6d41,6edb,6ecb,6f22,701e,716e,77a7,7235,72af,732a,7471,7506",
  "faa3:753b,761d,761f,76ca,76db,76f4,774a,7740,78cc,7ab1,7bc0,7c7b,7d5b,7df4,7f3e,8005,8352",
  "fab4:83ef,8779,8941,8986,8996,8abf,8af8,8acb,8b01,8afe,8aed,8b39,8b8a,8d08,8f38,9072,9199",
  "fac5:9276,967c,96e3,9756,97db,97ff,980b,983b,9b12,9f9c,2284a,22844,233d5,3b9d,4018,4039",
  "fad5:25249,25cd0,27ed3,9f43,9f8e fb00:66.66,66.69,66.6c,66.66.69,66.66.6c,73.74,73.74",
  "fb13:574.576,574.565,574.56b,57e.576,574.56d fb1d:5d9.5b4",
  "fb1f:5f2.5b7,5e2,5d0,5d3*2,5db*3,5e8,5ea",
  "fb2a:5e9.5c1,5e9.5c2,5e9.5bc.5c1,5e9.5bc.5c2,5d0.5b7,5d0.5b8,5d0.5bc,5d1.5bc,5d2.5bc,5d3.5bc",
  "fb34:5d4.5bc,5d5.5bc,5d6.5bc fb38:5d8.5bc,5d9.5bc,5da.5bc,5db.5bc,5dc.5bc fb3e:5de.5bc",
  "fb40:5e0.5bc,5e1.5bc fb43:5e3.5bc,5e4.5bc",
  "fb46:5e6.5bc,5e7.5bc,5e8.5bc,5e9.5bc,5ea.5bc,5d5.5b9,5d1.5bf,5db.5bf,5e4.5bf,5d0.5dc,671,671",
  "fb52:67b,67b,67b,67b,67e,67e,67e,67e,680,680,680,680,67a,67a,67a,67a,67f,67f,67f,67f,679,679",
  "fb68:679,679,6a4,6a4,6a4,6a4,6a6,6a6,6a6,6a6,684,684,684,684,683,683,683,683,686,686,686",
  "fb7d:686*2,687,687,687,68d,68d,68c,68c,68e,68e,688,688,698,698,691,691,6a9,6a9,6a9,6a9,6af",
  "fb93:6af,6af,6af,6b3,6b3,6b3,6b3,6b1,6b1,6b1,6b1,6ba,6ba*2,6bb,6bb,6bb,6d5.654,6d5.654,6c1",
  "fba7:6c1,6c1,6c1,6be,6be,6be,6be,6d2,6d2,6d2.654,6d2.654",
  "fbd3:6ad,6ad,6ad,6ad,6c7,6c7,6c6,6c6,6c8,6c8,6c7.674,6cb,6cb,6c5,6c5,6c9,6c9,6d0,6d0,6d0,6d0",
  "fbe8:649,649,64a.654.627,64a.654.627,64a.654.6d5,64a.654.6d5,64a.654.648,64a.654.648",
  "fbf0:64a.654.6c7,64a.654.6c7,64a.654.6c6,64a.654.6c6,64a.654.6c8,64a.654.6c8,64a.654.6d0",
  "fbf7:64a.654.6d0,64a.654.6d0,64a.654.649,64a.654.649,64a.654.649,6cc,6cc,6cc,6cc,64a.654.62c",
  "fc01:64a.654.62d,64a.654.645,64a.654.649,64a.654.64a,628.62c,628.62d,628.62e,628.645,628.649",
  "fc0a:628.64a,62a.62c,62a.62d,62a.62e,62a.645,62a.649,62a.64a,62b.62c,62b.645,62b.649,62b.64a",
  "fc15:62c.62d,62c.645,62d.62c,62d.645,62e.62c,62e.62d,62e.645,633.62c,633.62d,633.62e,633.645",
  "fc20:635.62d,635.645,636.62c,636.62d,636.62e,636.645,637.62d,637.645,638.645,639.62c,639.645",
  "fc2b:63a.62c,63a.645,641.62c,641.62d,641.62e,641.645,641.649,641.64a,642.62d,642.645,642.649",
  "fc36:642.64a,643.627,643.62c,643.62d,643.62e,643.644,643.645,643.649,643.64a,644.62c,644.62d",
  "fc41:644.62e,644.645,644.649,644.64a,645.62c,645.62d,645.62e,645.645,645.649,645.64a,646.62c",
  "fc4c:646.62d,646.62e,646.645,646.649,646.64a,647.62c,647.645,647.649,647.64a,64a.62c,64a.62d",
  "fc57:64a.62e,64a.645,64a.649,64a.64a,630.670,631.670,649.670",
  "fc64:64a.654.631,64a.654.632,64a.654.645,64a.654.646,64a.654.649,64a.654.64a,628.631,628.632",
  "fc6c:628.645,628.646,628.649,628.64a,62a.631,62a.632,62a.645,62a.646,62a.649,62a.64a,62b.631",
  "fc77:62b.632,62b.645,62b.646,62b.649,62b.64a,641.649,641.64a,642.649,642.64a,643.627,643.644",
  "fc82:643.645,643.649,643.64a,644.645,644.649,644.64a,645.627,645.645,646.631,646.632,646.645",
  "fc8d:646.646,646.649,646.64a,649.670,64a.631,64a.632,64a.645,64a.646,64a.649,64a.64a",
  "fc97:64a.654.62c,64a.654.62d,64a.654.62e,64a.654.645,64a.654.647,628.62c,628.62d,628.62e",
  "fc9f:628.645,628.647,62a.62c,62a.62d,62a.62e,62a.645,62a.647,62b.645,62c.62d,62c.645,62d.62c",
  "fcaa:62d.645,62e.62c,62e.645,633.62c,633.62d,633.62e,633.645,635.62d,635.62e,635.645,636.62c",
  "fcb5:636.62d,636.62e,636.645,637.62d,638.645,639.62c,639.645,63a.62c,63a.645,641.62c,641.62d",
  "fcc0:641.62e,641.645,642.62d,642.645,643.62c,643.62d,643.62e,643.644,643.645,644.62c,644.62d",
  "fccb:644.62e,644.645,644.647,645.62c,645.62d,645.62e,645.645,646.62c,646.62d,646.62e,646.645",
  "fcd6:646.647,647.62c,647.645,647.670,64a.62c,64a.62d,64a.62e,64a.645,64a.647,64a.654.645",
  "fce0:64a.654.647,628.645,628.647,62a.645,62a.647,62b.645,62b.647,633.645,633.647,634.645",
  "fcea:634.647,643.644,643.645,644.645,646.645,646.647,64a.645,64a.647,640.64e.651,640.64f.651",
  "fcf4:640.650.651,637.649,637.64a,639.649,639.64a,63a.649,63a.64a,633.649,633.64a,634.649",
  "fcfe:634.64a,62d.649,62d.64a,62c.649,62c.64a,62e.649,62e.64a,635.649,635.64a,636.649,636.64a",
  "fd09:634.62c,634.62d,634.62e,634.645,634.631,633.631,635.631,636.631,637.649,637.64a,639.649",
  "fd14:639.64a,63a.649,63a.64a,633.649,633.64a,634.649,634.64a,62d.649,62d.64a,62c.649,62c.64a",
  "fd1f:62e.649,62e.64a,635.649,635.64a,636.649,636.64a,634.62c,634.62d,634.62e,634.645,634.631",
  "fd2a:633.631,635.631,636.631,634.62c,634.62d,634.62e,634.645,633.647,634.647,637.645,633.62c",
  "fd35:633.62d,633.62e,634.62c,634.62d,634.62e,637.645,638.645,627.64b,627.64b",
  "fd50:62a.62c.645,62a.62d.62c,62a.62d.62c,62a.62d.645,62a.62e.645,62a.645.62c,62a.645.62d",
  "fd57:62a.645.62e,62c.645.62d,62c.645.62d,62d.645.64a,62d.645.649,633.62d.62c,633.62c.62d",
  "fd5e:633.62c.649,633.645.62d,633.645.62d,633.645.62c,633.645.645,633.645.645,635.62d.62d",
  "fd65:635.62d.62d,635.645.645,634.62d.645,634.62d.645,634.62c.64a,634.645.62e,634.645.62e",
  "fd6c:634.645.645,634.645.645,636.62d.649,636.62e.645,636.62e.645,637.645.62d,637.645.62d",
  "fd73:637.645.645,637.645.64a,639.62c.645,639.645.645,639.645.645,639.645.649,63a.645.645",
  "fd7a:63a.645.64a,63a.645.649,641.62e.645,641.62e.645,642.645.62d,642.645.645,644.62d.645",
  "fd81:644.62d.64a,644.62d.649,644.62c.62c,644.62c.62c,644.62e.645,644.62e.645,644.645.62d",
  "fd88:644.645.62d,645.62d.62c,645.62d.645,645.62d.64a,645.62c.62d,645.62c.645,645.62e.62c",
  "fd8f:645.62e.645",
  "fd92:645.62c.62e,647.645.62c,647.645.645,646.62d.645,646.62d.649,646.62c.645,646.62c.645",
  "fd99:646.62c.649,646.645.64a,646.645.649,64a.645.645,64a.645.645,628.62e.64a,62a.62c.64a",
  "fda0:62a.62c.649,62a.62e.64a,62a.62e.649,62a.645.64a,62a.645.649,62c.645.64a,62c.62d.649",
  "fda7:62c.645.649,633.62e.649,635.62d.64a,634.62d.64a,636.62d.64a,644.62c.64a,644.645.64a",
  "fdae:64a.62d.64a,64a.62c.64a,64a.645.64a,645.645.64a,642.645.64a,646.62d.64a,642.645.62d",
  "fdb5:644.62d.645,639.645.64a,643.645.64a,646.62c.62d,645.62e.64a,644.62c.645,643.645.645",
  "fdbc:644.62c.645,646.62c.62d,62c.62d.64a,62d.62c.64a,645.62c.64a,641.645.64a,628.62d.64a",
  "fdc3:643.645.645,639.62c.645,635.645.645,633.62e.64a,646.62c.64a",
  "fdf0:635.644.6d2,642.644.6d2,627.644.644.647,627.643.628.631,645.62d.645.62f,635.644.639.645",
  "fdf6:631.633.648.644,639.644.64a.647,648.633.644.645,635.644.649 fe33:5f,5f fe4d:5f,5f,5f",
  "fe71:640.64b fe77:640.64e fe79:640.64f fe7b:640.650 fe7d:640.651",
  "fe7f:640.652,621,627.653,627.653,627.654,627.654,648.654,648.654,627.655,627.655,64a.654",
  "fe8a:64a.654,64a.654,64a.654,627,627*2,628,628,628*2,629*2,62a,62a,62a*2,62b,62b,62b*2,62c",
  "fe9f:62c,62c*2,62d,62d,62d*2,62e,62e,62e*2,62f*2,630*2,631*2,632*2,633,633,633*2,634,634",
  "feb8:634*2,635,635,635*2,636,636,636*2,637,637,637*2,638,638,638*2,639,639,639*2,63a,63a,63a",
  "fed1:641,641,641,641*2,642,642,642*2,643,643,643*2,644,644,644*2,645,645,645*2,646,646,646*2",
  "feea:647,647,647*2,648*2,649*2,64a,64a,64a,644.627.653,644.627.653,644.627.654,644.627.654",
  "fef9:644.627.655,644.627.655,644.627,644.627 ff10:30*10 ff21:41*26 ff3f:5f ff41:61*26",
  "ff66:30f2,30a1,30a3,30a5,30a7,30a9,30e3,30e5,30e7,30c3,30fc,30a2,30a4,30a6,30a8,30aa*2,30ad",
  "ff78:30af,30b1,30b3,30b5,30b7,30b9,30bb,30bd,30bf,30c1,30c4,30c6,30c8,30ca*6,30d2,30d5,30d8",
  "ff8e:30db,30de*5,30e4,30e6,30e8*6,30ef,30f3,3099*2,1160,1100*2,11aa,1102,11ac*2,1103*3",
  "ffaa:11b0*6,111a,1106*3,1121,1109*10 ffc2:1161*6 ffca:1167*6 ffd2:116d*6 ffda:1173*3",
  "10781:2d0*2,e6,299,253",
  "10787:2a3,ab66,2a5,2a4,256*2,1d91,258,25e,2a9,264,262,260,29b,127,29c,267,284,2aa*2,26c",
  "1079c:1df04,a78e,26e,1df05,28e,1df06,f8,276*2,71,27a,1df08,27d*2,280,2a8,2a6,ab67,2a7,288",
  "107b0:2c71 107b2:28f,2a1*2,298,1c0*3,1df0a,1df1e 1d400:41*26,61*26,41*26,61*7",
  "1d456:69*18,41*26,61*26,41 1d49e:43*2 1d4a2:47 1d4a5:4a*2 1d4a9:4e*4 1d4ae:53*8,61*4 1d4bb:66",
  "1d4bd:68*7 1d4c5:70*11,41*26,61*26,41*2 1d507:44*4 1d50d:4a*8 1d516:53*7 1d51e:61*26,41*2",
  "1d53b:44*4 1d540:49*5 1d546:4f 1d54a:53*7",
  "1d552:61*26,41*26,61*26,41*26,61*26,41*26,61*26,41*26,61*26,41*26,61*26,41*26,61*26,131,237",
  "1d6a8:391*17,398,3a3*7 1d6c2:3b1*25 1d6dc:3b5,3b8,3ba,3c6,3c1,3c0,391*17,398,3a3*7 1d6fc:3b1*25",
  "1d716:3b5,3b8,3ba,3c6,3c1,3c0,391*17,398,3a3*7 1d736:3b1*25",
  "1d750:3b5,3b8,3ba,3c6,3c1,3c0,391*17,398,3a3*7 1d770:3b1*25",
  "1d78a:3b5,3b8,3ba,3c6,3c1,3c0,391*17,398,3a3*7 1d7aa:3b1*25 1d7c4:3b5,3b8,3ba,3c6,3c1,3c0,3dc*2",
  "1d7ce:30*10,30*10,30*10,30*10,30*10 1ee00:627*2,62c,62f",
  "1ee05:648,632,62d,637,64a,643*4,633,639,641,635,642,631,634,62a*2,62e,630,636,638,63a,66e",
  "1ee1d:6ba,6a1,66f 1ee21:628,62c 1ee24:647 1ee27:62d 1ee29:64a,643*4,633,639,641,635,642",
  "1ee34:634,62a*2,62e 1ee39:636 1ee3b:63a 1ee42:62c 1ee47:62d 1ee49:64a 1ee4b:644",
  "1ee4d:646,633,639 1ee51:635,642 1ee54:634 1ee57:62e 1ee59:636 1ee5b:63a 1ee5d:6ba 1ee5f:66f",
  "1ee61:628,62c 1ee64:647 1ee67:62d,637,64a,643 1ee6c:645*2,633,639,641,635,642",
  "1ee74:634,62a*2,62e 1ee79:636,638,63a,66e 1ee7e:6a1 1ee80:627*2,62c,62f,647*2,632,62d,637,64a",
  "1ee8b:644*3,633,639,641,635,642,631,634,62a*2,62e,630,636,638,63a 1eea1:628,62c,62f",
  "1eea5:648,632,62d,637,64a 1eeab:644*3,633,639,641,635,642,631,634,62a*2,62e,630,636,638,63a",
  "1fbf0:30*10",
  "2f800:4e3d,4e38,4e41,20122,4f60,4fae,4fbb,5002,507a,5099,50e7,50cf,349e,2063a,514d,5154,5164",
  "2f811:5177,2051c,34b9,5167,518d,2054b,5197,51a4,4ecc,51ac,51b5,291df,51f5,5203,34df,523b",
  "2f821:5246,5272,5277,3515,52c7,52c9,52e4,52fa,5305*2,5317,5349,5351,535a,5373,537d,537f,537f",
  "2f833:537f,20a2c,7070,53ca,53df,20b63,53eb,53f1,5406,549e,5438,5448,5468,54a2,54f6,5510,5553",
  "2f844:5563,5584,5584,5599,55ab,55b3,55c2,5716,5606,5717,5651,5674,5207,58ee,57ce,57f4,580d",
  "2f855:578b,5832,5831,58ac,214e4,58f2,58f7,5906,591a,5922,5962,216a8,216ea,59ec,5a1b,5a27",
  "2f865:59d8,5a66,36ee,36fc,5b08,5b3e,5b3e,219c8,5bc3,5bd8,5be7,5bf3,21b18,5bff,5c06,5f53,5c22",
  "2f876:3781,5c60,5c6e,5cc0,5c8d,21de4,5d43,21de6,5d6e,5d6b,5d7c,5de1*2,382f,5dfd,5e28,5e3d",
  "2f887:5e69,3862,22183,387c,5eb0,5eb3,5eb6,5eca,2a392,5efe,22331,22331,8201,5f22,5f22,38c7",
  "2f897:232b8,261da,5f62,5f6b,38e3,5f9a,5fcd,5fd7,5ff9,6081,393a,391c,6094,226d4,60c7,6148",
  "2f8a7:614c,614e,614c,617a,618e,61b2,61a4,61af,61de,61f2,61f6,6210,621b,625d,62b1,62d4,6350",
  "2f8b8:22b0c,633d,62fc,6368,6383,63e4,22bf1,6422,63c5,63a9,3a2e,6469,647e,649d,6477,3a6c,654f",
  "2f8c9:656c,2300a,65e3,66f8,6649,3b19,6691,3b08,3ae4,5192,5195,6700,669c,80ad,43d9,6717,671b",
  "2f8da:6721,675e,6753,233c3,3b49,67fa,6785,6852,6885,2346d,688e,681f,6914,3b9d,6942,69a3,69ea",
  "2f8eb:6aa8,236a3,6adb,3c18,6b21,238a7,6b54,3c4e,6b72,6b9f,6bba*2,23a8d,21d0b,23afa,6c4e",
  "2f8fb:23cbc,6cbf,6ccd,6c67,6d16,6d3e,6d77,6d41,6d69,6d78,6d85,23d1e,6d34,6e2f,6e6e,3d33,6ecb",
  "2f90c:6ec7,23ed1,6df9,6f6e,23f5e,23f8e,6fc6,7039,701e,701b,3d96,704a,707d,7077,70ad,20525",
  "2f91c:7145,24263,719c,243ab,7228,7235,7250,24608,7280,7295,24735,24814,737a,738b,3eac,73a5",
  "2f92c:3eb8,3eb8,7447,745c,7471,7485,74ca,3f1b,7524,24c36,753e,24c92,7570,2219f,7610,24fa1",
  "2f93c:24fb8,25044,3ffc,4008,76f4,250f3,250f2,25119,25133,771e*2,771f,774a,4039,778b,4046",
  "2f94c:4096,2541d,784e,788c,78cc,40e3,25626,7956,2569a,256c5,798f,79eb,412f,7a40,7a4a,7a4f",
  "2f95c:2597c,25aa7,25aa7,7aee,4202,25bab,7bc6,7bc9,4227,25c80,7cd2,42a0,7ce8,7ce3,7d00,25f86",
  "2f96c:7d63,4301,7dc7,7e02,7e45,4334,26228,26247,4359,262d9,7f7a,2633e,7f95,7ffa,8005,264da",
  "2f97c:26523,8060,265a8,8070,2335f,43d5,80b2,8103,440b,813e,5ab5,267a7,267b5,23393,2339c,8201",
  "2f98c:8204,8f9e,446b,8291,828b,829d,52b3,82b1,82b3,82bd,82e6,26b3c,82e5,831d,8363,83ad,8323",
  "2f99d:83bd,83e7,8457,8353,83ca,83cc,83dc,26c36,26d6b,26cd5,452b,84f1,84f3,8516,273ca,8564",
  "2f9ad:26f2c,455d,4561,26fb1,270d2,456b,8650,865c,8667,8669,86a9,8688,870e,86e2,8779,8728",
  "2f9bd:876b,8786,45d7,87e1,8801,45f9,8860,8863,27667,88d7,88de,4635,88fa,34bb,278ae,27966",
  "2f9cd:46be,46c7,8aa0,8aed,8b8a,8c55,27ca8,8cab,8cc1,8d1b,8d77,27f2f,20804,8dcb,8dbc,8df0",
  "2f9dd:208de,8ed4,8f38,285d2,285ed,9094,90f1,9111,2872e,911b,9238,92d7*2,927c,93f9,9415,28bfa",
  "2f9ee:958b,4995,95b7,28d77,49e6,96c3,5db2,9723,29145,2921a,4a6e,4a76,97e0,2940a,4ab2,29496",
  "2f9fe:980b,980b,9829,295b6,98e2,4b33,9929,99a7,99c2,99fe,4bce,29b30,9b12,9c40,9cfd,4cce,4ced",
  "2fa0f:9d67,2a0ce,4cf8,2a105,2a20e,2a291,9ebb,4d56,9ef9,9efe,9f05,9f0f,9f16,9f3b,2a600"]

/-- The classes of marks. -/
def markLines : List String := [
  "1:334-338,1cd4,1ce2-1ce8,20d2-20d3,20d8-20da,20e5-20e6,20ea-20eb,10a39,16af0-16af4,1bc9e",
  "1:1d167-1d169 6:16ff0-16ff1",
  "7:93c,9bc,a3c,abc,b3c,c3c,cbc,1037,1b34,1be6,1c37,a9b3,110ba,11173,111ca,11236,112e9",
  "7:1133b-1133c,11446,114c3,115c0,116b7,1183a,11943,11d42,1e94a 8:3099-309a",
  "9:94d,9cd,a4d,acd,b4d,bcd,c4d,ccd,d3b-d3c,d4d,dca,e3a,eba,f84,1039-103a,1714-1715,1734,17d2",
  "9:1a60,1b44,1baa-1bab,1bf2-1bf3,2d7f,a806,a82c,a8c4,a953,a9c0,aaf6,abed,10a3f,11046,11070",
  "9:1107f,110b9,11133-11134,111c0,11235,112ea,1134d,11442,114c2,115bf,1163f,116b6,1172b,11839",
  "9:1193d-1193e,119e0,11a34,11a47,11a99,11c3f,11d44-11d45,11d97 10:5b0 11:5b1 12:5b2 13:5b3 14:5b4",
  "15:5b5 16:5b6 17:5b7 18:5b8,5c7 19:5b9-5ba 20:5bb 21:5bc 22:5bd 23:5bf 24:5c1 25:5c2 26:fb1e",
  "27:64b,8f0 28:64c,8f1 29:64d,8f2 30:618,64e 31:619,64f 32:61a,650 33:651 34:652 35:670 36:711",
  "84:c55 91:c56 103:e38-e39 107:e48-e4b 118:eb8-eb9 122:ec8-ecb 129:f71 130:f72,f7a-f7d,f80",
  "132:f74 202:321-322,327-328,1dd0 214:1dce 216:31b,f39,1d165-1d166,1d16e-1d172 218:1dfa,302a",
  "220:316-319,31c-320,323-326,329-333,339-33c,347-349,34d-34e,353-356,359-35a,591,596,59b",
  "220:5a2-5a7,5aa,5c5,655-656,65c,65f,6e3,6ea,6ed,731,734,737-739,73b-73c,73e,742,744,746,748",
  "220:7f2,7fd,859-85b,899-89b,8cf-8d3,8e3,8e6,8e9,8ed-8ef,8f6,8f9-8fa,952,f18-f19,f35,f37,fc6",
  "220:108d,193b,1a18,1a7f,1ab5-1aba,1abd,1abf-1ac0,1ac3-1ac4,1aca,1b6c,1cd5-1cd9,1cdc-1cdf",
  "220:1ced,1dc2,1dca,1dcf,1df9,1dfd,1dff,20e8,20ec-20ef,a92b-a92d,aab4,fe27-fe2d,101fd,102e0",
  "220:10a0d,10a3a,10ae6,10f46-10f47,10f4b,10f4d-10f50,10f83,10f85,1d17b-1d182,1d18a-1d18b",
  "220:1e8d0-1e8d6 222:59a,5ad,1939,302d 224:302e-302f 226:1d16d 228:5ae,18a9,1df7-1df8,302b",
  "230:300-314,33d-344,346,34a-34c,350-352,357,35b,363-36f,483-487,592-595,597-599,59c-5a1",
  "230:5a8-5a9,5ab-5ac,5af,5c4,610-617,653-654,657-65b,65d-65e,6d6-6dc,6df-6e2,6e4,6e7-6e8",
  "230:6eb-6ec,730,732-733,735-736,73a,73d,73f-741,743,745,747,749-74a,7eb-7f1,7f3,816-819",
  "230:81b-823,825-827,829-82d,898,89c-89f,8ca-8ce,8d4-8e1,8e4-8e5,8e7-8e8,8ea-8ec,8f3-8f5",
  "230:8f7-8f8,8fb-8ff,951,953-954,9fe,f82-f83,f86-f87,135d-135f,17dd,193a,1a17,1a75-1a7c",
  "230:1ab0-1ab4,1abb-1abc,1ac1-1ac2,1ac5-1ac9,1acb-1ace,1b6b,1b6d-1b73,1cd0-1cd2,1cda-1cdb",
  "230:1ce0,1cf4,1cf8-1cf9,1dc0-1dc1,1dc3-1dc9,1dcb-1dcc,1dd1-1df5,1dfb,1dfe,20d0-20d1",
  "230:20d4-20d7,20db-20dc,20e1,20e7,20e9,20f0,2cef-2cf1,2de0-2dff,a66f,a674-a67d,a69e-a69f",
  "230:a6f0-a6f1,a8e0-a8f1,aab0,aab2-aab3,aab7-aab8,aabe-aabf,aac1,fe20-fe26,fe2e-fe2f",
  "230:10376-1037a,10a0f,10a38,10ae5,10d24-10d27,10eab-10eac,10f48-10f4a,10f4c,10f82,10f84",
  "230:11100-11102,11366-1136c,11370-11374,1145e,16b30-16b36,1d185-1d189,1d1aa-1d1ad",
  "230:1d242-1d244,1e000-1e006,1e008-1e018,1e01b-1e021,1e023-1e024,1e026-1e02a,1e130-1e136",
  "230:1e2ae,1e2ec-1e2ef,1e944-1e949 232:315,31a,358,1df6,302c 233:35c,35f,362,1dfc",
  "234:35d-35e,360-361,1dcd 240:345"]

/-- The number that hexadecimal digits write. -/
def codePoint (s : String) : Nat :=
  (ofHexDigits? s.toList).getD 0

/-- The entries of a table: what stands in front of a colon, and the parts behind it. -/
def tableEntries (lines : List String) : List (String × List String) :=
  (lines.flatMap (·.splitOn " ")).map fun entry =>
    match entry.splitOn ":" with
    | [key, parts] => (key, parts.splitOn ",")
    | _ => (entry, [])

/-- A character and a mark, and the character that they make up. -/
structure Composition where
  base : Nat
  mark : Nat
  whole : Nat
  deriving DecidableEq, Inhabited

/-- What marks make of characters, as a list. -/
def compositions : List Composition :=
  (tableEntries compositionLines).flatMap fun (mark, parts) =>
    parts.filterMap fun part =>
      match part.splitOn "=" with
      | [base, whole] => some ⟨codePoint base, codePoint mark, codePoint whole⟩
      | _ => none

/-- What the characters from `start` on stand for, as the parts of an entry tell. -/
def equivalentsFrom (start : Nat) : List String → List (Nat × List Nat)
  | [] => []
  | part :: parts =>
    match part.splitOn "*" with
    | [first, count] =>
      let n := count.toNat?.getD 0
      (List.range n).map (fun k => (start + k, [codePoint first + k])) ++
        equivalentsFrom (start + n) parts
    | _ => (start, (part.splitOn ".").map codePoint) :: equivalentsFrom (start + 1) parts

/-- What characters stand for, as a list. -/
def equivalents : List (Nat × List Nat) :=
  (tableEntries equivalentLines).flatMap fun (start, parts) =>
    equivalentsFrom (codePoint start) parts

/-- A run of marks of one class. -/
structure MarkRun where
  first : Nat
  last : Nat
  markClass : Nat
  deriving DecidableEq, Inhabited

/-- The classes of marks, as a list. -/
def markRuns : List MarkRun :=
  (tableEntries markLines).flatMap fun (markClass, parts) =>
    parts.map fun part =>
      let ends := (part.splitOn "-").map codePoint
      ⟨ends.headD 0, ends.getLastD 0, markClass.toNat?.getD 0⟩

end SearchQuery.Text
