import ElementMarkup.Text.Decomposition

/-!
# Stand-ins

Ligatures, letters of a special shape and signs that look like letters have no place in the normal
form: what they stand for takes it.
-/

namespace ElementMarkup.Text

/-- The table of the characters that only stand in for others (Unicode 14, those that occur in
identifiers). -/
def standInLines : List String := [
  "aa=61 b5=3bc ba=6f 132=49.4a 133=69.6a 13f=4c.b7 140=6c.b7 149=2bc.6e 17f=73 1c4=44.5a.30c",
  "1c5=44.7a.30c 1c6=64.7a.30c 1c7=4c.4a 1c8=4c.6a 1c9=6c.6a 1ca=4e.4a 1cb=4e.6a 1cc=6e.6a",
  "1f1=44.5a 1f2=44.7a 1f3=64.7a 2b0=68 2b1=266 2b2=6a 2b3=72 2b4=279 2b5=27b 2b6=281 2b7=77",
  "2b8=79 2e0=263 2e1=6c 2e2=73 2e3=78 2e4=295 340-341+300 343=313 344=308.301 374=2b9 387=b7",
  "3d0=3b2 3d1=3b8 3d2=3a5 3d3=3a5.301 3d4=3a5.308 3d5=3c6 3d6=3c0 3f0=3ba 3f1-3f2+3c1 3f4=398",
  "3f5=3b5 3f9=3a3 587=565.582 675=627.674 676=648.674 677=6c7.674 678=64a.674 958=915.93c",
  "959=916.93c 95a=917.93c 95b=91c.93c 95c=921.93c 95d=922.93c 95e=92b.93c 95f=92f.93c",
  "9dc=9a1.9bc 9dd=9a2.9bc 9df=9af.9bc a33=a32.a3c a36=a38.a3c a59=a16.a3c a5a=a17.a3c",
  "a5b=a1c.a3c a5e=a2b.a3c b5c=b21.b3c b5d=b22.b3c e33=e4d.e32 eb3=ecd.eb2 edc=eab.e99",
  "edd=eab.ea1 f43=f42.fb7 f4d=f4c.fb7 f52=f51.fb7 f57=f56.fb7 f5c=f5b.fb7 f69=f40.fb5",
  "f73=f71.f72 f75=f71.f74 f76=fb2.f80 f77=fb2.f71.f80 f78=fb3.f80 f79=fb3.f71.f80 f81=f71.f80",
  "f93=f92.fb7 f9d=f9c.fb7 fa2=fa1.fb7 fa7=fa6.fb7 fac=fab.fb7 fb9=f90.fb5 10fc=10dc 1d2c=41",
  "1d2d=c6 1d2e=42 1d30-1d31+44 1d32=18e 1d33-1d3a+47 1d3c=4f 1d3d=222 1d3e=50 1d3f=52",
  "1d40-1d41+54 1d42=57 1d43=61 1d44-1d45+250 1d46=1d02 1d47=62 1d48-1d49+64 1d4a=259",
  "1d4b-1d4c+25b 1d4d=67 1d4f=6b 1d50=6d 1d51=14b 1d52=6f 1d53=254 1d54-1d55+1d16 1d56=70",
  "1d57-1d58+74 1d59=1d1d 1d5a=26f 1d5b=76 1d5c=1d25 1d5d-1d5f+3b2 1d60-1d61+3c6 1d62=69 1d63=72",
  "1d64-1d65+75 1d66-1d67+3b2 1d68=3c1 1d69-1d6a+3c6 1d78=43d 1d9b=252 1d9c=63 1d9d=255 1d9e=f0",
  "1d9f=25c 1da0=66 1da1=25f 1da2=261 1da3=265 1da4-1da6+268 1da7=1d7b 1da8=29d 1da9=26d",
  "1daa=1d85 1dab=29f 1dac=271 1dad=270 1dae-1db1+272 1db2=278 1db3-1db4+282 1db5=1ab",
  "1db6-1db7+289 1db8=1d1c 1db9-1dba+28b 1dbb=7a 1dbc-1dbe+290 1dbf=3b8 1e9a=61.2be 1e9b=73.307",
  "1f71=3b1.301 1f73=3b5.301 1f75=3b7.301 1f77=3b9.301 1f79=3bf.301 1f7b=3c5.301 1f7d=3c9.301",
  "1fbb=391.301 1fbe=3b9 1fc9=395.301 1fcb=397.301 1fd3=3b9.308.301 1fdb=399.301 1fe3=3c5.308.301",
  "1feb=3a5.301 1ff9=39f.301 1ffb=3a9.301 2071=69 207f=6e 2090=61 2091=65 2092=6f 2093=78",
  "2094=259 2095=68 2096-2099+6b 209a=70 209b-209c+73 2102=43 2107=190 210a=67 210b-210d=48",
  "210e=68 210f=127 2110-2111=49 2112=4c 2113=6c 2115=4e 2119-211b+50 211c-211d=52 2124=5a",
  "2126=3a9 2128=5a 212a=4b 212b=41.30a 212c-212d+42 212f=65 2130-2131+45 2133=4d 2134=6f",
  "2135-2138+5d0 2139=69 213c=3c0 213d=3b3 213e=393 213f=3a0 2145=44 2146-2147+64 2148-2149+69",
  "2160=49 2161=49.49 2162=49.49.49 2163=49.56 2164=56 2165=56.49 2166=56.49.49 2167=56.49.49.49",
  "2168=49.58 2169=58 216a=58.49 216b=58.49.49 216c=4c 216d-216e+43 216f=4d 2170=69 2171=69.69",
  "2172=69.69.69 2173=69.76 2174=76 2175=76.69 2176=76.69.69 2177=76.69.69.69 2178=69.78 2179=78",
  "217a=78.69 217b=78.69.69 217c=6c 217d-217e+63 217f=6d 2c7c=6a 2c7d=56 2d6f=2d61 3038=5341",
  "3039-303a+5344 309f=3088.308a 30ff=30b3.30c8 3131-3132+1100 3133=11aa 3134=1102 3135-3136+11ac",
  "3137-3139+1103 313a-313f+11b0 3140=111a 3141-3143+1106 3144=1121 3145-314e+1109 314f-3163+1161",
  "3164=1160 3165-3166+1114 3167-3168+11c7 3169=11cc 316a=11ce 316b=11d3 316c=11d7 316d=11d9",
  "316e=111c 316f=11dd 3170=11df 3171-3172+111d 3173=1120 3174-3175+1122 3176=1127 3177=1129",
  "3178-317c+112b 317d=1132 317e=1136 317f=1140 3180=1147 3181=114c 3182-3183+11f1 3184-3186+1157",
  "3187-3188+1184 3189=1188 318a-318b+1191 318c=1194 318d=119e 318e=11a1 a69c=44a a69d=44c",
  "a770=a76f a7f2=43 a7f3=46 a7f4=51 a7f8=126 a7f9=153 ab5c=a727 ab5d=ab37 ab5e=26b ab5f=ab52",
  "ab69=28d f900=8c48 f901=66f4 f902=8eca f903=8cc8 f904=6ed1 f905=4e32 f906=53e5 f907-f908=9f9c",
  "f909=5951 f90a=91d1 f90b=5587 f90c=5948 f90d=61f6 f90e=7669 f90f=7f85 f910=863f f911=87ba",
  "f912=88f8 f913=908f f914=6a02 f915=6d1b f916=70d9 f917=73de f918=843d f919=916a f91a=99f1",
  "f91b=4e82 f91c=5375 f91d=6b04 f91e=721b f91f=862d f920=9e1e f921=5d50 f922=6feb f923=85cd",
  "f924=8964 f925=62c9 f926=81d8 f927=881f f928=5eca f929=6717 f92a=6d6a f92b=72fc f92c=90ce",
  "f92d=4f86 f92e=51b7 f92f=52de f930=64c4 f931=6ad3 f932=7210 f933=76e7 f934=8001 f935=8606",
  "f936=865c f937=8def f938=9732 f939=9b6f f93a=9dfa f93b=788c f93c=797f f93d=7da0 f93e=83c9",
  "f93f=9304 f940=9e7f f941=8ad6 f942=58df f943=5f04 f944=7c60 f945=807e f946=7262 f947=78ca",
  "f948=8cc2 f949=96f7 f94a=58d8 f94b=5c62 f94c=6a13 f94d=6dda f94e=6f0f f94f=7d2f f950=7e37",
  "f951=964b f952=52d2 f953=808b f954=51dc f955=51cc f956=7a1c f957=7dbe f958=83f1 f959=9675",
  "f95a=8b80 f95b=62cf f95c=6a02 f95d=8afe f95e=4e39 f95f=5be7 f960=6012 f961=7387 f962=7570",
  "f963=5317 f964=78fb f965=4fbf f966=5fa9 f967=4e0d f968=6ccc f969=6578 f96a=7d22 f96b=53c3",
  "f96c=585e f96d=7701 f96e=8449 f96f=8aaa f970=6bba f971=8fb0 f972=6c88 f973=62fe f974=82e5",
  "f975=63a0 f976=7565 f977=4eae f978=5169 f979=51c9 f97a=6881 f97b=7ce7 f97c=826f f97d=8ad2",
  "f97e=91cf f97f=52f5 f980=5442 f981=5973 f982=5eec f983=65c5 f984=6ffe f985=792a f986=95ad",
  "f987=9a6a f988=9e97 f989=9ece f98a=529b f98b=66c6 f98c=6b77 f98d=8f62 f98e=5e74 f98f=6190",
  "f990=6200 f991=649a f992=6f23 f993=7149 f994=7489 f995=79ca f996=7df4 f997=806f f998=8f26",
  "f999=84ee f99a=9023 f99b=934a f99c=5217 f99d=52a3 f99e=54bd f99f=70c8 f9a0=88c2 f9a1=8aaa",
  "f9a2=5ec9 f9a3=5ff5 f9a4=637b f9a5=6bae f9a6=7c3e f9a7=7375 f9a8=4ee4 f9a9=56f9 f9aa=5be7",
  "f9ab=5dba f9ac=601c f9ad=73b2 f9ae=7469 f9af=7f9a f9b0=8046 f9b1=9234 f9b2=96f6 f9b3=9748",
  "f9b4=9818 f9b5=4f8b f9b6=79ae f9b7=91b4 f9b8=96b8 f9b9=60e1 f9ba=4e86 f9bb=50da f9bc=5bee",
  "f9bd=5c3f f9be=6599 f9bf=6a02 f9c0=71ce f9c1=7642 f9c2=84fc f9c3=907c f9c4=9f8d f9c5=6688",
  "f9c6=962e f9c7=5289 f9c8=677b f9c9=67f3 f9ca=6d41 f9cb=6e9c f9cc=7409 f9cd=7559 f9ce=786b",
  "f9cf=7d10 f9d0=985e f9d1=516d f9d2=622e f9d3=9678 f9d4=502b f9d5=5d19 f9d6=6dea f9d7=8f2a",
  "f9d8=5f8b f9d9=6144 f9da=6817 f9db=7387 f9dc=9686 f9dd=5229 f9de=540f f9df=5c65 f9e0=6613",
  "f9e1=674e f9e2=68a8 f9e3=6ce5 f9e4=7406 f9e5=75e2 f9e6=7f79 f9e7=88cf f9e8=88e1 f9e9=91cc",
  "f9ea=96e2 f9eb=533f f9ec=6eba f9ed=541d f9ee=71d0 f9ef=7498 f9f0=85fa f9f1=96a3 f9f2=9c57",
  "f9f3=9e9f f9f4=6797 f9f5=6dcb f9f6=81e8 f9f7=7acb f9f8=7b20 f9f9=7c92 f9fa=72c0 f9fb=7099",
  "f9fc=8b58 f9fd=4ec0 f9fe=8336 f9ff=523a fa00=5207 fa01=5ea6 fa02=62d3 fa03=7cd6 fa04=5b85",
  "fa05=6d1e fa06=66b4 fa07=8f3b fa08=884c fa09=964d fa0a=898b fa0b=5ed3 fa0c=5140 fa0d=55c0",
  "fa10=585a fa12=6674 fa15=51de fa16=732a fa17=76ca fa18=793c fa19=795e fa1a=7965 fa1b=798f",
  "fa1c=9756 fa1d=7cbe fa1e=7fbd fa20=8612 fa22=8af8 fa25=9038 fa26=90fd fa2a=98ef fa2b=98fc",
  "fa2c=9928 fa2d=9db4 fa2e=90de fa2f=96b7 fa30=4fae fa31=50e7 fa32=514d fa33=52c9 fa34=52e4",
  "fa35=5351 fa36=559d fa37=5606 fa38=5668 fa39=5840 fa3a=58a8 fa3b=5c64 fa3c=5c6e fa3d=6094",
  "fa3e=6168 fa3f=618e fa40=61f2 fa41=654f fa42=65e2 fa43=6691 fa44=6885 fa45=6d77 fa46=6e1a",
  "fa47=6f22 fa48=716e fa49=722b fa4a=7422 fa4b=7891 fa4c=793e fa4d=7949 fa4e=7948 fa4f=7950",
  "fa50=7956 fa51=795d fa52-fa53+798d fa54=7a40 fa55=7a81 fa56=7bc0 fa57=7df4 fa58=7e09 fa59=7e41",
  "fa5a=7f72 fa5b=8005 fa5c=81ed fa5d-fa5e=8279 fa5f=8457 fa60=8910 fa61=8996 fa62=8b01 fa63=8b39",
  "fa64=8cd3 fa65=8d08 fa66=8fb6 fa67=9038 fa68=96e3 fa69=97ff fa6a=983b fa6b=6075 fa6c=242ee",
  "fa6d=8218 fa70=4e26 fa71=51b5 fa72=5168 fa73=4f80 fa74=5145 fa75=5180 fa76=52c7 fa77=52fa",
  "fa78=559d fa79=5555 fa7a=5599 fa7b=55e2 fa7c=585a fa7d=58b3 fa7e=5944 fa7f=5954 fa80=5a62",
  "fa81=5b28 fa82=5ed2 fa83=5ed9 fa84=5f69 fa85=5fad fa86=60d8 fa87=614e fa88=6108 fa89=618e",
  "fa8a=6160 fa8b=61f2 fa8c=6234 fa8d=63c4 fa8e=641c fa8f=6452 fa90=6556 fa91=6674 fa92=6717",
  "fa93=671b fa94=6756 fa95=6b79 fa96=6bba fa97=6d41 fa98=6edb fa99=6ecb fa9a=6f22 fa9b=701e",
  "fa9c=716e fa9d=77a7 fa9e=7235 fa9f=72af faa0=732a faa1=7471 faa2=7506 faa3=753b faa4=761d",
  "faa5=761f faa6=76ca faa7=76db faa8=76f4 faa9=774a faaa=7740 faab=78cc faac=7ab1 faad=7bc0",
  "faae=7c7b faaf=7d5b fab0=7df4 fab1=7f3e fab2=8005 fab3=8352 fab4=83ef fab5=8779 fab6=8941",
  "fab7=8986 fab8=8996 fab9=8abf faba=8af8 fabb=8acb fabc=8b01 fabd=8afe fabe=8aed fabf=8b39",
  "fac0=8b8a fac1=8d08 fac2=8f38 fac3=9072 fac4=9199 fac5=9276 fac6=967c fac7=96e3 fac8=9756",
  "fac9=97db faca=97ff facb=980b facc=983b facd=9b12 face=9f9c facf=2284a fad0=22844 fad1=233d5",
  "fad2=3b9d fad3=4018 fad4=4039 fad5=25249 fad6=25cd0 fad7=27ed3 fad8=9f43 fad9=9f8e fb00=66.66",
  "fb01=66.69 fb02=66.6c fb03=66.66.69 fb04=66.66.6c fb05-fb06=73.74 fb13=574.576 fb14=574.565",
  "fb15=574.56b fb16=57e.576 fb17=574.56d fb1d=5d9.5b4 fb1f=5f2.5b7 fb20=5e2 fb21=5d0",
  "fb22-fb23+5d3 fb24-fb26+5db fb27=5e8 fb28=5ea fb2a=5e9.5c1 fb2b=5e9.5c2 fb2c=5e9.5bc.5c1",
  "fb2d=5e9.5bc.5c2 fb2e=5d0.5b7 fb2f=5d0.5b8 fb30=5d0.5bc fb31=5d1.5bc fb32=5d2.5bc fb33=5d3.5bc",
  "fb34=5d4.5bc fb35=5d5.5bc fb36=5d6.5bc fb38=5d8.5bc fb39=5d9.5bc fb3a=5da.5bc fb3b=5db.5bc",
  "fb3c=5dc.5bc fb3e=5de.5bc fb40=5e0.5bc fb41=5e1.5bc fb43=5e3.5bc fb44=5e4.5bc fb46=5e6.5bc",
  "fb47=5e7.5bc fb48=5e8.5bc fb49=5e9.5bc fb4a=5ea.5bc fb4b=5d5.5b9 fb4c=5d1.5bf fb4d=5db.5bf",
  "fb4e=5e4.5bf fb4f=5d0.5dc fb50-fb51=671 fb52-fb55=67b fb56-fb59=67e fb5a-fb5d=680",
  "fb5e-fb61=67a fb62-fb65=67f fb66-fb69=679 fb6a-fb6d=6a4 fb6e-fb71=6a6 fb72-fb75=684",
  "fb76-fb79=683 fb7a-fb7d=686 fb7e-fb81=687 fb82-fb83=68d fb84-fb85=68c fb86-fb87=68e",
  "fb88-fb89=688 fb8a-fb8b=698 fb8c-fb8d=691 fb8e-fb91=6a9 fb92-fb95=6af fb96-fb99=6b3",
  "fb9a-fb9d=6b1 fb9e-fb9f=6ba fba0-fba3=6bb fba4-fba5=6d5.654 fba6-fba9=6c1 fbaa-fbad=6be",
  "fbae-fbaf=6d2 fbb0-fbb1=6d2.654 fbd3-fbd6=6ad fbd7-fbd8=6c7 fbd9-fbda=6c6 fbdb-fbdc=6c8",
  "fbdd=6c7.674 fbde-fbdf=6cb fbe0-fbe1=6c5 fbe2-fbe3=6c9 fbe4-fbe7=6d0 fbe8-fbe9=649",
  "fbea-fbeb=64a.654.627 fbec-fbed=64a.654.6d5 fbee-fbef=64a.654.648 fbf0-fbf1=64a.654.6c7",
  "fbf2-fbf3=64a.654.6c6 fbf4-fbf5=64a.654.6c8 fbf6-fbf8=64a.654.6d0 fbf9-fbfb=64a.654.649",
  "fbfc-fbff=6cc fc00=64a.654.62c fc01=64a.654.62d fc02=64a.654.645 fc03=64a.654.649",
  "fc04=64a.654.64a fc05=628.62c fc06=628.62d fc07=628.62e fc08=628.645 fc09=628.649 fc0a=628.64a",
  "fc0b=62a.62c fc0c=62a.62d fc0d=62a.62e fc0e=62a.645 fc0f=62a.649 fc10=62a.64a fc11=62b.62c",
  "fc12=62b.645 fc13=62b.649 fc14=62b.64a fc15=62c.62d fc16=62c.645 fc17=62d.62c fc18=62d.645",
  "fc19=62e.62c fc1a=62e.62d fc1b=62e.645 fc1c=633.62c fc1d=633.62d fc1e=633.62e fc1f=633.645",
  "fc20=635.62d fc21=635.645 fc22=636.62c fc23=636.62d fc24=636.62e fc25=636.645 fc26=637.62d",
  "fc27=637.645 fc28=638.645 fc29=639.62c fc2a=639.645 fc2b=63a.62c fc2c=63a.645 fc2d=641.62c",
  "fc2e=641.62d fc2f=641.62e fc30=641.645 fc31=641.649 fc32=641.64a fc33=642.62d fc34=642.645",
  "fc35=642.649 fc36=642.64a fc37=643.627 fc38=643.62c fc39=643.62d fc3a=643.62e fc3b=643.644",
  "fc3c=643.645 fc3d=643.649 fc3e=643.64a fc3f=644.62c fc40=644.62d fc41=644.62e fc42=644.645",
  "fc43=644.649 fc44=644.64a fc45=645.62c fc46=645.62d fc47=645.62e fc48=645.645 fc49=645.649",
  "fc4a=645.64a fc4b=646.62c fc4c=646.62d fc4d=646.62e fc4e=646.645 fc4f=646.649 fc50=646.64a",
  "fc51=647.62c fc52=647.645 fc53=647.649 fc54=647.64a fc55=64a.62c fc56=64a.62d fc57=64a.62e",
  "fc58=64a.645 fc59=64a.649 fc5a=64a.64a fc5b=630.670 fc5c=631.670 fc5d=649.670 fc64=64a.654.631",
  "fc65=64a.654.632 fc66=64a.654.645 fc67=64a.654.646 fc68=64a.654.649 fc69=64a.654.64a",
  "fc6a=628.631 fc6b=628.632 fc6c=628.645 fc6d=628.646 fc6e=628.649 fc6f=628.64a fc70=62a.631",
  "fc71=62a.632 fc72=62a.645 fc73=62a.646 fc74=62a.649 fc75=62a.64a fc76=62b.631 fc77=62b.632",
  "fc78=62b.645 fc79=62b.646 fc7a=62b.649 fc7b=62b.64a fc7c=641.649 fc7d=641.64a fc7e=642.649",
  "fc7f=642.64a fc80=643.627 fc81=643.644 fc82=643.645 fc83=643.649 fc84=643.64a fc85=644.645",
  "fc86=644.649 fc87=644.64a fc88=645.627 fc89=645.645 fc8a=646.631 fc8b=646.632 fc8c=646.645",
  "fc8d=646.646 fc8e=646.649 fc8f=646.64a fc90=649.670 fc91=64a.631 fc92=64a.632 fc93=64a.645",
  "fc94=64a.646 fc95=64a.649 fc96=64a.64a fc97=64a.654.62c fc98=64a.654.62d fc99=64a.654.62e",
  "fc9a=64a.654.645 fc9b=64a.654.647 fc9c=628.62c fc9d=628.62d fc9e=628.62e fc9f=628.645",
  "fca0=628.647 fca1=62a.62c fca2=62a.62d fca3=62a.62e fca4=62a.645 fca5=62a.647 fca6=62b.645",
  "fca7=62c.62d fca8=62c.645 fca9=62d.62c fcaa=62d.645 fcab=62e.62c fcac=62e.645 fcad=633.62c",
  "fcae=633.62d fcaf=633.62e fcb0=633.645 fcb1=635.62d fcb2=635.62e fcb3=635.645 fcb4=636.62c",
  "fcb5=636.62d fcb6=636.62e fcb7=636.645 fcb8=637.62d fcb9=638.645 fcba=639.62c fcbb=639.645",
  "fcbc=63a.62c fcbd=63a.645 fcbe=641.62c fcbf=641.62d fcc0=641.62e fcc1=641.645 fcc2=642.62d",
  "fcc3=642.645 fcc4=643.62c fcc5=643.62d fcc6=643.62e fcc7=643.644 fcc8=643.645 fcc9=644.62c",
  "fcca=644.62d fccb=644.62e fccc=644.645 fccd=644.647 fcce=645.62c fccf=645.62d fcd0=645.62e",
  "fcd1=645.645 fcd2=646.62c fcd3=646.62d fcd4=646.62e fcd5=646.645 fcd6=646.647 fcd7=647.62c",
  "fcd8=647.645 fcd9=647.670 fcda=64a.62c fcdb=64a.62d fcdc=64a.62e fcdd=64a.645 fcde=64a.647",
  "fcdf=64a.654.645 fce0=64a.654.647 fce1=628.645 fce2=628.647 fce3=62a.645 fce4=62a.647",
  "fce5=62b.645 fce6=62b.647 fce7=633.645 fce8=633.647 fce9=634.645 fcea=634.647 fceb=643.644",
  "fcec=643.645 fced=644.645 fcee=646.645 fcef=646.647 fcf0=64a.645 fcf1=64a.647 fcf2=640.64e.651",
  "fcf3=640.64f.651 fcf4=640.650.651 fcf5=637.649 fcf6=637.64a fcf7=639.649 fcf8=639.64a",
  "fcf9=63a.649 fcfa=63a.64a fcfb=633.649 fcfc=633.64a fcfd=634.649 fcfe=634.64a fcff=62d.649",
  "fd00=62d.64a fd01=62c.649 fd02=62c.64a fd03=62e.649 fd04=62e.64a fd05=635.649 fd06=635.64a",
  "fd07=636.649 fd08=636.64a fd09=634.62c fd0a=634.62d fd0b=634.62e fd0c=634.645 fd0d=634.631",
  "fd0e=633.631 fd0f=635.631 fd10=636.631 fd11=637.649 fd12=637.64a fd13=639.649 fd14=639.64a",
  "fd15=63a.649 fd16=63a.64a fd17=633.649 fd18=633.64a fd19=634.649 fd1a=634.64a fd1b=62d.649",
  "fd1c=62d.64a fd1d=62c.649 fd1e=62c.64a fd1f=62e.649 fd20=62e.64a fd21=635.649 fd22=635.64a",
  "fd23=636.649 fd24=636.64a fd25=634.62c fd26=634.62d fd27=634.62e fd28=634.645 fd29=634.631",
  "fd2a=633.631 fd2b=635.631 fd2c=636.631 fd2d=634.62c fd2e=634.62d fd2f=634.62e fd30=634.645",
  "fd31=633.647 fd32=634.647 fd33=637.645 fd34=633.62c fd35=633.62d fd36=633.62e fd37=634.62c",
  "fd38=634.62d fd39=634.62e fd3a=637.645 fd3b=638.645 fd3c-fd3d=627.64b fd50=62a.62c.645",
  "fd51-fd52=62a.62d.62c fd53=62a.62d.645 fd54=62a.62e.645 fd55=62a.645.62c fd56=62a.645.62d",
  "fd57=62a.645.62e fd58-fd59=62c.645.62d fd5a=62d.645.64a fd5b=62d.645.649 fd5c=633.62d.62c",
  "fd5d=633.62c.62d fd5e=633.62c.649 fd5f-fd60=633.645.62d fd61=633.645.62c fd62-fd63=633.645.645",
  "fd64-fd65=635.62d.62d fd66=635.645.645 fd67-fd68=634.62d.645 fd69=634.62c.64a",
  "fd6a-fd6b=634.645.62e fd6c-fd6d=634.645.645 fd6e=636.62d.649 fd6f-fd70=636.62e.645",
  "fd71-fd72=637.645.62d fd73=637.645.645 fd74=637.645.64a fd75=639.62c.645 fd76-fd77=639.645.645",
  "fd78=639.645.649 fd79=63a.645.645 fd7a=63a.645.64a fd7b=63a.645.649 fd7c-fd7d=641.62e.645",
  "fd7e=642.645.62d fd7f=642.645.645 fd80=644.62d.645 fd81=644.62d.64a fd82=644.62d.649",
  "fd83-fd84=644.62c.62c fd85-fd86=644.62e.645 fd87-fd88=644.645.62d fd89=645.62d.62c",
  "fd8a=645.62d.645 fd8b=645.62d.64a fd8c=645.62c.62d fd8d=645.62c.645 fd8e=645.62e.62c",
  "fd8f=645.62e.645 fd92=645.62c.62e fd93=647.645.62c fd94=647.645.645 fd95=646.62d.645",
  "fd96=646.62d.649 fd97-fd98=646.62c.645 fd99=646.62c.649 fd9a=646.645.64a fd9b=646.645.649",
  "fd9c-fd9d=64a.645.645 fd9e=628.62e.64a fd9f=62a.62c.64a fda0=62a.62c.649 fda1=62a.62e.64a",
  "fda2=62a.62e.649 fda3=62a.645.64a fda4=62a.645.649 fda5=62c.645.64a fda6=62c.62d.649",
  "fda7=62c.645.649 fda8=633.62e.649 fda9=635.62d.64a fdaa=634.62d.64a fdab=636.62d.64a",
  "fdac=644.62c.64a fdad=644.645.64a fdae=64a.62d.64a fdaf=64a.62c.64a fdb0=64a.645.64a",
  "fdb1=645.645.64a fdb2=642.645.64a fdb3=646.62d.64a fdb4=642.645.62d fdb5=644.62d.645",
  "fdb6=639.645.64a fdb7=643.645.64a fdb8=646.62c.62d fdb9=645.62e.64a fdba=644.62c.645",
  "fdbb=643.645.645 fdbc=644.62c.645 fdbd=646.62c.62d fdbe=62c.62d.64a fdbf=62d.62c.64a",
  "fdc0=645.62c.64a fdc1=641.645.64a fdc2=628.62d.64a fdc3=643.645.645 fdc4=639.62c.645",
  "fdc5=635.645.645 fdc6=633.62e.64a fdc7=646.62c.64a fdf0=635.644.6d2 fdf1=642.644.6d2",
  "fdf2=627.644.644.647 fdf3=627.643.628.631 fdf4=645.62d.645.62f fdf5=635.644.639.645",
  "fdf6=631.633.648.644 fdf7=639.644.64a.647 fdf8=648.633.644.645 fdf9=635.644.649 fe33-fe34=5f",
  "fe4d-fe4f=5f fe71=640.64b fe77=640.64e fe79=640.64f fe7b=640.650 fe7d=640.651 fe7f=640.652",
  "fe80=621 fe81-fe82=627.653 fe83-fe84=627.654 fe85-fe86=648.654 fe87-fe88=627.655",
  "fe89-fe8c=64a.654 fe8d-fe8e=627 fe8f-fe92=628 fe93-fe94=629 fe95-fe98=62a fe99-fe9c=62b",
  "fe9d-fea0=62c fea1-fea4=62d fea5-fea8=62e fea9-feaa=62f feab-feac=630 fead-feae=631",
  "feaf-feb0=632 feb1-feb4=633 feb5-feb8=634 feb9-febc=635 febd-fec0=636 fec1-fec4=637",
  "fec5-fec8=638 fec9-fecc=639 fecd-fed0=63a fed1-fed4=641 fed5-fed8=642 fed9-fedc=643",
  "fedd-fee0=644 fee1-fee4=645 fee5-fee8=646 fee9-feec=647 feed-feee=648 feef-fef0=649",
  "fef1-fef4=64a fef5-fef6=644.627.653 fef7-fef8=644.627.654 fef9-fefa=644.627.655",
  "fefb-fefc=644.627 ff10-ff19+30 ff21-ff3a+41 ff3f=5f ff41-ff5a+61 ff66=30f2 ff67=30a1 ff68=30a3",
  "ff69=30a5 ff6a=30a7 ff6b=30a9 ff6c=30e3 ff6d=30e5 ff6e=30e7 ff6f=30c3 ff70=30fc ff71=30a2",
  "ff72=30a4 ff73=30a6 ff74=30a8 ff75-ff76+30aa ff77=30ad ff78=30af ff79=30b1 ff7a=30b3 ff7b=30b5",
  "ff7c=30b7 ff7d=30b9 ff7e=30bb ff7f=30bd ff80=30bf ff81=30c1 ff82=30c4 ff83=30c6 ff84=30c8",
  "ff85-ff8a+30ca ff8b=30d2 ff8c=30d5 ff8d=30d8 ff8e=30db ff8f-ff93+30de ff94=30e4 ff95=30e6",
  "ff96-ff9b+30e8 ff9c=30ef ff9d=30f3 ff9e-ff9f+3099 ffa0=1160 ffa1-ffa2+1100 ffa3=11aa ffa4=1102",
  "ffa5-ffa6+11ac ffa7-ffa9+1103 ffaa-ffaf+11b0 ffb0=111a ffb1-ffb3+1106 ffb4=1121 ffb5-ffbe+1109",
  "ffc2-ffc7+1161 ffca-ffcf+1167 ffd2-ffd7+116d ffda-ffdc+1173 10781-10782+2d0 10783=e6 10784=299",
  "10785=253 10787=2a3 10788=ab66 10789=2a5 1078a=2a4 1078b-1078c+256 1078d=1d91 1078e=258",
  "1078f=25e 10790=2a9 10791=264 10792=262 10793=260 10794=29b 10795=127 10796=29c 10797=267",
  "10798=284 10799-1079a+2aa 1079b=26c 1079c=1df04 1079d=a78e 1079e=26e 1079f=1df05 107a0=28e",
  "107a1=1df06 107a2=f8 107a3-107a4+276 107a5=71 107a6=27a 107a7=1df08 107a8-107a9+27d 107aa=280",
  "107ab=2a8 107ac=2a6 107ad=ab67 107ae=2a7 107af=288 107b0=2c71 107b2=28f 107b3-107b4+2a1",
  "107b5=298 107b6-107b8+1c0 107b9=1df0a 107ba=1df1e 1d400-1d419+41 1d41a-1d433+61 1d434-1d44d+41",
  "1d44e-1d454+61 1d456-1d467+69 1d468-1d481+41 1d482-1d49b+61 1d49c=41 1d49e-1d49f+43 1d4a2=47",
  "1d4a5-1d4a6+4a 1d4a9-1d4ac+4e 1d4ae-1d4b5+53 1d4b6-1d4b9+61 1d4bb=66 1d4bd-1d4c3+68",
  "1d4c5-1d4cf+70 1d4d0-1d4e9+41 1d4ea-1d503+61 1d504-1d505+41 1d507-1d50a+44 1d50d-1d514+4a",
  "1d516-1d51c+53 1d51e-1d537+61 1d538-1d539+41 1d53b-1d53e+44 1d540-1d544+49 1d546=4f",
  "1d54a-1d550+53 1d552-1d56b+61 1d56c-1d585+41 1d586-1d59f+61 1d5a0-1d5b9+41 1d5ba-1d5d3+61",
  "1d5d4-1d5ed+41 1d5ee-1d607+61 1d608-1d621+41 1d622-1d63b+61 1d63c-1d655+41 1d656-1d66f+61",
  "1d670-1d689+41 1d68a-1d6a3+61 1d6a4=131 1d6a5=237 1d6a8-1d6b8+391 1d6b9=398 1d6ba-1d6c0+3a3",
  "1d6c2-1d6da+3b1 1d6dc=3b5 1d6dd=3b8 1d6de=3ba 1d6df=3c6 1d6e0=3c1 1d6e1=3c0 1d6e2-1d6f2+391",
  "1d6f3=398 1d6f4-1d6fa+3a3 1d6fc-1d714+3b1 1d716=3b5 1d717=3b8 1d718=3ba 1d719=3c6 1d71a=3c1",
  "1d71b=3c0 1d71c-1d72c+391 1d72d=398 1d72e-1d734+3a3 1d736-1d74e+3b1 1d750=3b5 1d751=3b8",
  "1d752=3ba 1d753=3c6 1d754=3c1 1d755=3c0 1d756-1d766+391 1d767=398 1d768-1d76e+3a3",
  "1d770-1d788+3b1 1d78a=3b5 1d78b=3b8 1d78c=3ba 1d78d=3c6 1d78e=3c1 1d78f=3c0 1d790-1d7a0+391",
  "1d7a1=398 1d7a2-1d7a8+3a3 1d7aa-1d7c2+3b1 1d7c4=3b5 1d7c5=3b8 1d7c6=3ba 1d7c7=3c6 1d7c8=3c1",
  "1d7c9=3c0 1d7ca-1d7cb+3dc 1d7ce-1d7d7+30 1d7d8-1d7e1+30 1d7e2-1d7eb+30 1d7ec-1d7f5+30",
  "1d7f6-1d7ff+30 1ee00-1ee01+627 1ee02=62c 1ee03=62f 1ee05=648 1ee06=632 1ee07=62d 1ee08=637",
  "1ee09=64a 1ee0a-1ee0d+643 1ee0e=633 1ee0f=639 1ee10=641 1ee11=635 1ee12=642 1ee13=631",
  "1ee14=634 1ee15-1ee16+62a 1ee17=62e 1ee18=630 1ee19=636 1ee1a=638 1ee1b=63a 1ee1c=66e",
  "1ee1d=6ba 1ee1e=6a1 1ee1f=66f 1ee21=628 1ee22=62c 1ee24=647 1ee27=62d 1ee29=64a",
  "1ee2a-1ee2d+643 1ee2e=633 1ee2f=639 1ee30=641 1ee31=635 1ee32=642 1ee34=634 1ee35-1ee36+62a",
  "1ee37=62e 1ee39=636 1ee3b=63a 1ee42=62c 1ee47=62d 1ee49=64a 1ee4b=644 1ee4d=646 1ee4e=633",
  "1ee4f=639 1ee51=635 1ee52=642 1ee54=634 1ee57=62e 1ee59=636 1ee5b=63a 1ee5d=6ba 1ee5f=66f",
  "1ee61=628 1ee62=62c 1ee64=647 1ee67=62d 1ee68=637 1ee69=64a 1ee6a=643 1ee6c-1ee6d+645",
  "1ee6e=633 1ee6f=639 1ee70=641 1ee71=635 1ee72=642 1ee74=634 1ee75-1ee76+62a 1ee77=62e",
  "1ee79=636 1ee7a=638 1ee7b=63a 1ee7c=66e 1ee7e=6a1 1ee80-1ee81+627 1ee82=62c 1ee83=62f",
  "1ee84-1ee85+647 1ee86=632 1ee87=62d 1ee88=637 1ee89=64a 1ee8b-1ee8d+644 1ee8e=633 1ee8f=639",
  "1ee90=641 1ee91=635 1ee92=642 1ee93=631 1ee94=634 1ee95-1ee96+62a 1ee97=62e 1ee98=630",
  "1ee99=636 1ee9a=638 1ee9b=63a 1eea1=628 1eea2=62c 1eea3=62f 1eea5=648 1eea6=632 1eea7=62d",
  "1eea8=637 1eea9=64a 1eeab-1eead+644 1eeae=633 1eeaf=639 1eeb0=641 1eeb1=635 1eeb2=642",
  "1eeb3=631 1eeb4=634 1eeb5-1eeb6+62a 1eeb7=62e 1eeb8=630 1eeb9=636 1eeba=638 1eebb=63a",
  "1fbf0-1fbf9+30 2f800=4e3d 2f801=4e38 2f802=4e41 2f803=20122 2f804=4f60 2f805=4fae 2f806=4fbb",
  "2f807=5002 2f808=507a 2f809=5099 2f80a=50e7 2f80b=50cf 2f80c=349e 2f80d=2063a 2f80e=514d",
  "2f80f=5154 2f810=5164 2f811=5177 2f812=2051c 2f813=34b9 2f814=5167 2f815=518d 2f816=2054b",
  "2f817=5197 2f818=51a4 2f819=4ecc 2f81a=51ac 2f81b=51b5 2f81c=291df 2f81d=51f5 2f81e=5203",
  "2f81f=34df 2f820=523b 2f821=5246 2f822=5272 2f823=5277 2f824=3515 2f825=52c7 2f826=52c9",
  "2f827=52e4 2f828=52fa 2f829-2f82a+5305 2f82b=5317 2f82c=5349 2f82d=5351 2f82e=535a 2f82f=5373",
  "2f830=537d 2f831-2f833=537f 2f834=20a2c 2f835=7070 2f836=53ca 2f837=53df 2f838=20b63",
  "2f839=53eb 2f83a=53f1 2f83b=5406 2f83c=549e 2f83d=5438 2f83e=5448 2f83f=5468 2f840=54a2",
  "2f841=54f6 2f842=5510 2f843=5553 2f844=5563 2f845-2f846=5584 2f847=5599 2f848=55ab 2f849=55b3",
  "2f84a=55c2 2f84b=5716 2f84c=5606 2f84d=5717 2f84e=5651 2f84f=5674 2f850=5207 2f851=58ee",
  "2f852=57ce 2f853=57f4 2f854=580d 2f855=578b 2f856=5832 2f857=5831 2f858=58ac 2f859=214e4",
  "2f85a=58f2 2f85b=58f7 2f85c=5906 2f85d=591a 2f85e=5922 2f85f=5962 2f860=216a8 2f861=216ea",
  "2f862=59ec 2f863=5a1b 2f864=5a27 2f865=59d8 2f866=5a66 2f867=36ee 2f868=36fc 2f869=5b08",
  "2f86a-2f86b=5b3e 2f86c=219c8 2f86d=5bc3 2f86e=5bd8 2f86f=5be7 2f870=5bf3 2f871=21b18",
  "2f872=5bff 2f873=5c06 2f874=5f53 2f875=5c22 2f876=3781 2f877=5c60 2f878=5c6e 2f879=5cc0",
  "2f87a=5c8d 2f87b=21de4 2f87c=5d43 2f87d=21de6 2f87e=5d6e 2f87f=5d6b 2f880=5d7c",
  "2f881-2f882+5de1 2f883=382f 2f884=5dfd 2f885=5e28 2f886=5e3d 2f887=5e69 2f888=3862 2f889=22183",
  "2f88a=387c 2f88b=5eb0 2f88c=5eb3 2f88d=5eb6 2f88e=5eca 2f88f=2a392 2f890=5efe",
  "2f891-2f892=22331 2f893=8201 2f894-2f895=5f22 2f896=38c7 2f897=232b8 2f898=261da 2f899=5f62",
  "2f89a=5f6b 2f89b=38e3 2f89c=5f9a 2f89d=5fcd 2f89e=5fd7 2f89f=5ff9 2f8a0=6081 2f8a1=393a",
  "2f8a2=391c 2f8a3=6094 2f8a4=226d4 2f8a5=60c7 2f8a6=6148 2f8a7=614c 2f8a8=614e 2f8a9=614c",
  "2f8aa=617a 2f8ab=618e 2f8ac=61b2 2f8ad=61a4 2f8ae=61af 2f8af=61de 2f8b0=61f2 2f8b1=61f6",
  "2f8b2=6210 2f8b3=621b 2f8b4=625d 2f8b5=62b1 2f8b6=62d4 2f8b7=6350 2f8b8=22b0c 2f8b9=633d",
  "2f8ba=62fc 2f8bb=6368 2f8bc=6383 2f8bd=63e4 2f8be=22bf1 2f8bf=6422 2f8c0=63c5 2f8c1=63a9",
  "2f8c2=3a2e 2f8c3=6469 2f8c4=647e 2f8c5=649d 2f8c6=6477 2f8c7=3a6c 2f8c8=654f 2f8c9=656c",
  "2f8ca=2300a 2f8cb=65e3 2f8cc=66f8 2f8cd=6649 2f8ce=3b19 2f8cf=6691 2f8d0=3b08 2f8d1=3ae4",
  "2f8d2=5192 2f8d3=5195 2f8d4=6700 2f8d5=669c 2f8d6=80ad 2f8d7=43d9 2f8d8=6717 2f8d9=671b",
  "2f8da=6721 2f8db=675e 2f8dc=6753 2f8dd=233c3 2f8de=3b49 2f8df=67fa 2f8e0=6785 2f8e1=6852",
  "2f8e2=6885 2f8e3=2346d 2f8e4=688e 2f8e5=681f 2f8e6=6914 2f8e7=3b9d 2f8e8=6942 2f8e9=69a3",
  "2f8ea=69ea 2f8eb=6aa8 2f8ec=236a3 2f8ed=6adb 2f8ee=3c18 2f8ef=6b21 2f8f0=238a7 2f8f1=6b54",
  "2f8f2=3c4e 2f8f3=6b72 2f8f4=6b9f 2f8f5-2f8f6+6bba 2f8f7=23a8d 2f8f8=21d0b 2f8f9=23afa",
  "2f8fa=6c4e 2f8fb=23cbc 2f8fc=6cbf 2f8fd=6ccd 2f8fe=6c67 2f8ff=6d16 2f900=6d3e 2f901=6d77",
  "2f902=6d41 2f903=6d69 2f904=6d78 2f905=6d85 2f906=23d1e 2f907=6d34 2f908=6e2f 2f909=6e6e",
  "2f90a=3d33 2f90b=6ecb 2f90c=6ec7 2f90d=23ed1 2f90e=6df9 2f90f=6f6e 2f910=23f5e 2f911=23f8e",
  "2f912=6fc6 2f913=7039 2f914=701e 2f915=701b 2f916=3d96 2f917=704a 2f918=707d 2f919=7077",
  "2f91a=70ad 2f91b=20525 2f91c=7145 2f91d=24263 2f91e=719c 2f91f=243ab 2f920=7228 2f921=7235",
  "2f922=7250 2f923=24608 2f924=7280 2f925=7295 2f926=24735 2f927=24814 2f928=737a 2f929=738b",
  "2f92a=3eac 2f92b=73a5 2f92c-2f92d=3eb8 2f92e=7447 2f92f=745c 2f930=7471 2f931=7485 2f932=74ca",
  "2f933=3f1b 2f934=7524 2f935=24c36 2f936=753e 2f937=24c92 2f938=7570 2f939=2219f 2f93a=7610",
  "2f93b=24fa1 2f93c=24fb8 2f93d=25044 2f93e=3ffc 2f93f=4008 2f940=76f4 2f941=250f3 2f942=250f2",
  "2f943=25119 2f944=25133 2f945-2f946+771e 2f947=771f 2f948=774a 2f949=4039 2f94a=778b",
  "2f94b=4046 2f94c=4096 2f94d=2541d 2f94e=784e 2f94f=788c 2f950=78cc 2f951=40e3 2f952=25626",
  "2f953=7956 2f954=2569a 2f955=256c5 2f956=798f 2f957=79eb 2f958=412f 2f959=7a40 2f95a=7a4a",
  "2f95b=7a4f 2f95c=2597c 2f95d-2f95e=25aa7 2f95f=7aee 2f960=4202 2f961=25bab 2f962=7bc6",
  "2f963=7bc9 2f964=4227 2f965=25c80 2f966=7cd2 2f967=42a0 2f968=7ce8 2f969=7ce3 2f96a=7d00",
  "2f96b=25f86 2f96c=7d63 2f96d=4301 2f96e=7dc7 2f96f=7e02 2f970=7e45 2f971=4334 2f972=26228",
  "2f973=26247 2f974=4359 2f975=262d9 2f976=7f7a 2f977=2633e 2f978=7f95 2f979=7ffa 2f97a=8005",
  "2f97b=264da 2f97c=26523 2f97d=8060 2f97e=265a8 2f97f=8070 2f980=2335f 2f981=43d5 2f982=80b2",
  "2f983=8103 2f984=440b 2f985=813e 2f986=5ab5 2f987=267a7 2f988=267b5 2f989=23393 2f98a=2339c",
  "2f98b=8201 2f98c=8204 2f98d=8f9e 2f98e=446b 2f98f=8291 2f990=828b 2f991=829d 2f992=52b3",
  "2f993=82b1 2f994=82b3 2f995=82bd 2f996=82e6 2f997=26b3c 2f998=82e5 2f999=831d 2f99a=8363",
  "2f99b=83ad 2f99c=8323 2f99d=83bd 2f99e=83e7 2f99f=8457 2f9a0=8353 2f9a1=83ca 2f9a2=83cc",
  "2f9a3=83dc 2f9a4=26c36 2f9a5=26d6b 2f9a6=26cd5 2f9a7=452b 2f9a8=84f1 2f9a9=84f3 2f9aa=8516",
  "2f9ab=273ca 2f9ac=8564 2f9ad=26f2c 2f9ae=455d 2f9af=4561 2f9b0=26fb1 2f9b1=270d2 2f9b2=456b",
  "2f9b3=8650 2f9b4=865c 2f9b5=8667 2f9b6=8669 2f9b7=86a9 2f9b8=8688 2f9b9=870e 2f9ba=86e2",
  "2f9bb=8779 2f9bc=8728 2f9bd=876b 2f9be=8786 2f9bf=45d7 2f9c0=87e1 2f9c1=8801 2f9c2=45f9",
  "2f9c3=8860 2f9c4=8863 2f9c5=27667 2f9c6=88d7 2f9c7=88de 2f9c8=4635 2f9c9=88fa 2f9ca=34bb",
  "2f9cb=278ae 2f9cc=27966 2f9cd=46be 2f9ce=46c7 2f9cf=8aa0 2f9d0=8aed 2f9d1=8b8a 2f9d2=8c55",
  "2f9d3=27ca8 2f9d4=8cab 2f9d5=8cc1 2f9d6=8d1b 2f9d7=8d77 2f9d8=27f2f 2f9d9=20804 2f9da=8dcb",
  "2f9db=8dbc 2f9dc=8df0 2f9dd=208de 2f9de=8ed4 2f9df=8f38 2f9e0=285d2 2f9e1=285ed 2f9e2=9094",
  "2f9e3=90f1 2f9e4=9111 2f9e5=2872e 2f9e6=911b 2f9e7=9238 2f9e8-2f9e9+92d7 2f9ea=927c 2f9eb=93f9",
  "2f9ec=9415 2f9ed=28bfa 2f9ee=958b 2f9ef=4995 2f9f0=95b7 2f9f1=28d77 2f9f2=49e6 2f9f3=96c3",
  "2f9f4=5db2 2f9f5=9723 2f9f6=29145 2f9f7=2921a 2f9f8=4a6e 2f9f9=4a76 2f9fa=97e0 2f9fb=2940a",
  "2f9fc=4ab2 2f9fd=29496 2f9fe-2f9ff=980b 2fa00=9829 2fa01=295b6 2fa02=98e2 2fa03=4b33",
  "2fa04=9929 2fa05=99a7 2fa06=99c2 2fa07=99fe 2fa08=4bce 2fa09=29b30 2fa0a=9b12 2fa0b=9c40",
  "2fa0c=9cfd 2fa0d=4cce 2fa0e=4ced 2fa0f=9d67 2fa10=2a0ce 2fa11=4cf8 2fa12=2a105 2fa13=2a20e",
  "2fa14=2a291 2fa15=9ebb 2fa16=4d56 2fa17=9ef9 2fa18=9efe 2fa19=9f05 2fa1a=9f0f 2fa1b=9f16",
  "2fa1c=9f3b 2fa1d=2a600"]

/-- The characters that only stand in for others. -/
def standIns : List Decomposition :=
  Decomposition.ofLines standInLines

end ElementMarkup.Text
