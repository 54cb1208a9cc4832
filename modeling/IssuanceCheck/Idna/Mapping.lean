import IssuanceCheck.Text.Ranges

namespace IssuanceCheck.Idna

open Text

inductive Mapping where
  | valid
  | ignored
  | disallowed
  | mapped (image : List Char)

/-- The mapping of host names beyond ASCII, each entry good up to the start of the next: `.` keeps a
character, `~` drops it, `!` refuses it, and `=` is followed by what replaces it. -/
def mappingText : String := "
80! a0=20 a1. a8=20+308 a9. aa=61 ab. ad~ ae. af=20+304 b0. b2=32 b3=33 b4=20+301 b5=3bc b6.
b8=20+327 b9=31 ba=6f bb. bc=31+2044+34 bd=31+2044+32 be=33+2044+34 bf. c0=e0 c1=e1 c2=e2 c3=e3
c4=e4 c5=e5 c6=e6 c7=e7 c8=e8 c9=e9 ca=ea cb=eb cc=ec cd=ed ce=ee cf=ef d0=f0 d1=f1 d2=f2 d3=f3
d4=f4 d5=f5 d6=f6 d7. d8=f8 d9=f9 da=fa db=fb dc=fc dd=fd de=fe df. 100=101 101. 102=103 103.
104=105 105. 106=107 107. 108=109 109. 10a=10b 10b. 10c=10d 10d. 10e=10f 10f. 110=111 111.
112=113 113. 114=115 115. 116=117 117. 118=119 119. 11a=11b 11b. 11c=11d 11d. 11e=11f 11f.
120=121 121. 122=123 123. 124=125 125. 126=127 127. 128=129 129. 12a=12b 12b. 12c=12d 12d.
12e=12f 12f. 130=69+307 131. 132=69+6a 134=135 135. 136=137 137. 139=13a 13a. 13b=13c 13c.
13d=13e 13e. 13f=6c+b7 141=142 142. 143=144 144. 145=146 146. 147=148 148. 149=2bc+6e 14a=14b
14b. 14c=14d 14d. 14e=14f 14f. 150=151 151. 152=153 153. 154=155 155. 156=157 157. 158=159 159.
15a=15b 15b. 15c=15d 15d. 15e=15f 15f. 160=161 161. 162=163 163. 164=165 165. 166=167 167.
168=169 169. 16a=16b 16b. 16c=16d 16d. 16e=16f 16f. 170=171 171. 172=173 173. 174=175 175.
176=177 177. 178=ff 179=17a 17a. 17b=17c 17c. 17d=17e 17e. 17f=73 180. 181=253 182=183 183.
184=185 185. 186=254 187=188 188. 189=256 18a=257 18b=18c 18c. 18e=1dd 18f=259 190=25b 191=192
192. 193=260 194=263 195. 196=269 197=268 198=199 199. 19c=26f 19d=272 19e. 19f=275 1a0=1a1 1a1.
1a2=1a3 1a3. 1a4=1a5 1a5. 1a6=280 1a7=1a8 1a8. 1a9=283 1aa. 1ac=1ad 1ad. 1ae=288 1af=1b0 1b0.
1b1=28a 1b2=28b 1b3=1b4 1b4. 1b5=1b6 1b6. 1b7=292 1b8=1b9 1b9. 1bc=1bd 1bd. 1c4=64+17e 1c7=6c+6a
1ca=6e+6a 1cd=1ce 1ce. 1cf=1d0 1d0. 1d1=1d2 1d2. 1d3=1d4 1d4. 1d5=1d6 1d6. 1d7=1d8 1d8. 1d9=1da
1da. 1db=1dc 1dc. 1de=1df 1df. 1e0=1e1 1e1. 1e2=1e3 1e3. 1e4=1e5 1e5. 1e6=1e7 1e7. 1e8=1e9 1e9.
1ea=1eb 1eb. 1ec=1ed 1ed. 1ee=1ef 1ef. 1f1=64+7a 1f4=1f5 1f5. 1f6=195 1f7=1bf 1f8=1f9 1f9.
1fa=1fb 1fb. 1fc=1fd 1fd. 1fe=1ff 1ff. 200=201 201. 202=203 203. 204=205 205. 206=207 207.
208=209 209. 20a=20b 20b. 20c=20d 20d. 20e=20f 20f. 210=211 211. 212=213 213. 214=215 215.
216=217 217. 218=219 219. 21a=21b 21b. 21c=21d 21d. 21e=21f 21f. 220=19e 221. 222=223 223.
224=225 225. 226=227 227. 228=229 229. 22a=22b 22b. 22c=22d 22d. 22e=22f 22f. 230=231 231.
232=233 233. 23a=2c65 23b=23c 23c. 23d=19a 23e=2c66 23f. 241=242 242. 243=180 244=289 245=28c
246=247 247. 248=249 249. 24a=24b 24b. 24c=24d 24d. 24e=24f 24f. 2b0=68 2b1=266 2b2=6a 2b3=72
2b4=279 2b5=27b 2b6=281 2b7=77 2b8=79 2b9. 2d8=20+306 2d9=20+307 2da=20+30a 2db=20+328 2dc=20+303
2dd=20+30b 2de. 2e0=263 2e1=6c 2e2=73 2e3=78 2e4=295 2e5. 340=300 341=301 342. 343=313
344=308+301 345=3b9 346. 34f~ 350. 370=371 371. 372=373 373. 374=2b9 375. 376=377 377. 378!
37a=20+3b9 37b. 37e=3b 37f=3f3 380! 384=20+301 385=20+308+301 386=3ac 387=b7 388=3ad 389=3ae
38a=3af 38b! 38c=3cc 38d! 38e=3cd 38f=3ce 390. 391=3b1 392=3b2 393=3b3 394=3b4 395=3b5 396=3b6
397=3b7 398=3b8 399=3b9 39a=3ba 39b=3bb 39c=3bc 39d=3bd 39e=3be 39f=3bf 3a0=3c0 3a1=3c1 3a2!
3a3=3c3 3a4=3c4 3a5=3c5 3a6=3c6 3a7=3c7 3a8=3c8 3a9=3c9 3aa=3ca 3ab=3cb 3ac. 3cf=3d7 3d0=3b2
3d1=3b8 3d2=3c5 3d3=3cd 3d4=3cb 3d5=3c6 3d6=3c0 3d7. 3d8=3d9 3d9. 3da=3db 3db. 3dc=3dd 3dd.
3de=3df 3df. 3e0=3e1 3e1. 3e2=3e3 3e3. 3e4=3e5 3e5. 3e6=3e7 3e7. 3e8=3e9 3e9. 3ea=3eb 3eb.
3ec=3ed 3ed. 3ee=3ef 3ef. 3f0=3ba 3f1=3c1 3f2=3c3 3f3. 3f4=3b8 3f5=3b5 3f6. 3f7=3f8 3f8. 3f9=3c3
3fa=3fb 3fb. 3fd=37b 3fe=37c 3ff=37d 400=450 401=451 402=452 403=453 404=454 405=455 406=456
407=457 408=458 409=459 40a=45a 40b=45b 40c=45c 40d=45d 40e=45e 40f=45f 410=430 411=431 412=432
413=433 414=434 415=435 416=436 417=437 418=438 419=439 41a=43a 41b=43b 41c=43c 41d=43d 41e=43e
41f=43f 420=440 421=441 422=442 423=443 424=444 425=445 426=446 427=447 428=448 429=449 42a=44a
42b=44b 42c=44c 42d=44d 42e=44e 42f=44f 430. 460=461 461. 462=463 463. 464=465 465. 466=467 467.
468=469 469. 46a=46b 46b. 46c=46d 46d. 46e=46f 46f. 470=471 471. 472=473 473. 474=475 475.
476=477 477. 478=479 479. 47a=47b 47b. 47c=47d 47d. 47e=47f 47f. 480=481 481. 48a=48b 48b.
48c=48d 48d. 48e=48f 48f. 490=491 491. 492=493 493. 494=495 495. 496=497 497. 498=499 499.
49a=49b 49b. 49c=49d 49d. 49e=49f 49f. 4a0=4a1 4a1. 4a2=4a3 4a3. 4a4=4a5 4a5. 4a6=4a7 4a7.
4a8=4a9 4a9. 4aa=4ab 4ab. 4ac=4ad 4ad. 4ae=4af 4af. 4b0=4b1 4b1. 4b2=4b3 4b3. 4b4=4b5 4b5.
4b6=4b7 4b7. 4b8=4b9 4b9. 4ba=4bb 4bb. 4bc=4bd 4bd. 4be=4bf 4bf. 4c0=4cf 4c1=4c2 4c2. 4c3=4c4
4c4. 4c5=4c6 4c6. 4c7=4c8 4c8. 4c9=4ca 4ca. 4cb=4cc 4cc. 4cd=4ce 4ce. 4d0=4d1 4d1. 4d2=4d3 4d3.
4d4=4d5 4d5. 4d6=4d7 4d7. 4d8=4d9 4d9. 4da=4db 4db. 4dc=4dd 4dd. 4de=4df 4df. 4e0=4e1 4e1.
4e2=4e3 4e3. 4e4=4e5 4e5. 4e6=4e7 4e7. 4e8=4e9 4e9. 4ea=4eb 4eb. 4ec=4ed 4ed. 4ee=4ef 4ef.
4f0=4f1 4f1. 4f2=4f3 4f3. 4f4=4f5 4f5. 4f6=4f7 4f7. 4f8=4f9 4f9. 4fa=4fb 4fb. 4fc=4fd 4fd.
4fe=4ff 4ff. 500=501 501. 502=503 503. 504=505 505. 506=507 507. 508=509 509. 50a=50b 50b.
50c=50d 50d. 50e=50f 50f. 510=511 511. 512=513 513. 514=515 515. 516=517 517. 518=519 519.
51a=51b 51b. 51c=51d 51d. 51e=51f 51f. 520=521 521. 522=523 523. 524=525 525. 526=527 527.
528=529 529. 52a=52b 52b. 52c=52d 52d. 52e=52f 52f. 530! 531=561 532=562 533=563 534=564 535=565
536=566 537=567 538=568 539=569 53a=56a 53b=56b 53c=56c 53d=56d 53e=56e 53f=56f 540=570 541=571
542=572 543=573 544=574 545=575 546=576 547=577 548=578 549=579 54a=57a 54b=57b 54c=57c 54d=57d
54e=57e 54f=57f 550=580 551=581 552=582 553=583 554=584 555=585 556=586 557! 559. 587=565+582
588. 58b! 58d. 590! 591. 5c8! 5d0. 5eb! 5ef. 5f5! 606. 61c! 61d. 675=627+674 676=648+674
677=6c7+674 678=64a+674 679. 6dd! 6de. 70e! 710. 74b! 74d. 7b2! 7c0. 7fb! 7fd. 82e! 830. 83f!
840. 85c! 85e. 85f! 860. 86b! 870. 890! 897. 8e2! 8e3. 958=915+93c 959=916+93c 95a=917+93c
95b=91c+93c 95c=921+93c 95d=922+93c 95e=92b+93c 95f=92f+93c 960. 984! 985. 98d! 98f. 991! 993.
9a9! 9aa. 9b1! 9b2. 9b3! 9b6. 9ba! 9bc. 9c5! 9c7. 9c9! 9cb. 9cf! 9d7. 9d8! 9dc=9a1+9bc
9dd=9a2+9bc 9de! 9df=9af+9bc 9e0. 9e4! 9e6. 9ff! a01. a04! a05. a0b! a0f. a11! a13. a29! a2a.
a31! a32. a33=a32+a3c a34! a35. a36=a38+a3c a37! a38. a3a! a3c. a3d! a3e. a43! a47. a49! a4b.
a4e! a51. a52! a59=a16+a3c a5a=a17+a3c a5b=a1c+a3c a5c. a5d! a5e=a2b+a3c a5f! a66. a77! a81. a84!
a85. a8e! a8f. a92! a93. aa9! aaa. ab1! ab2. ab4! ab5. aba! abc. ac6! ac7. aca! acb. ace! ad0.
ad1! ae0. ae4! ae6. af2! af9. b00! b01. b04! b05. b0d! b0f. b11! b13. b29! b2a. b31! b32. b34!
b35. b3a! b3c. b45! b47. b49! b4b. b4e! b55. b58! b5c=b21+b3c b5d=b22+b3c b5e! b5f. b64! b66.
b78! b82. b84! b85. b8b! b8e. b91! b92. b96! b99. b9b! b9c. b9d! b9e. ba0! ba3. ba5! ba8. bab!
bae. bba! bbe. bc3! bc6. bc9! bca. bce! bd0. bd1! bd7. bd8! be6. bfb! c00. c0d! c0e. c11! c12.
c29! c2a. c3a! c3c. c45! c46. c49! c4a. c4e! c55. c57! c58. c5b! c5c. c5e! c60. c64! c66. c70!
c77. c8d! c8e. c91! c92. ca9! caa. cb4! cb5. cba! cbc. cc5! cc6. cc9! cca. cce! cd5. cd7! cdc.
cdf! ce0. ce4! ce6. cf0! cf1. cf4! d00. d0d! d0e. d11! d12. d45! d46. d49! d4a. d50! d54. d64!
d66. d80! d81. d84! d85. d97! d9a. db2! db3. dbc! dbd. dbe! dc0. dc7! dca. dcb! dcf. dd5! dd6.
dd7! dd8. de0! de6. df0! df2. df5! e01. e33=e4d+e32 e34. e3b! e3f. e5c! e81. e83! e84. e85! e86.
e8b! e8c. ea4! ea5. ea6! ea7. eb3=ecd+eb2 eb4. ebe! ec0. ec5! ec6. ec7! ec8. ecf! ed0. eda!
edc=eab+e99 edd=eab+ea1 ede. ee0! f00. f0c=f0b f0d. f43=f42+fb7 f44. f48! f49. f4d=f4c+fb7 f4e.
f52=f51+fb7 f53. f57=f56+fb7 f58. f5c=f5b+fb7 f5d. f69=f40+fb5 f6a. f6d! f71. f73=f71+f72 f74.
f75=f71+f74 f76=fb2+f80 f77=fb2+f71+f80 f78=fb3+f80 f79=fb3+f71+f80 f7a. f81=f71+f80 f82.
f93=f92+fb7 f94. f98! f99. f9d=f9c+fb7 f9e. fa2=fa1+fb7 fa3. fa7=fa6+fb7 fa8. fac=fab+fb7 fad.
fb9=f90+fb5 fba. fbd! fbe. fcd! fce. fdb! 1000. 10a0=2d00 10a1=2d01 10a2=2d02 10a3=2d03 10a4=2d04
10a5=2d05 10a6=2d06 10a7=2d07 10a8=2d08 10a9=2d09 10aa=2d0a 10ab=2d0b 10ac=2d0c 10ad=2d0d
10ae=2d0e 10af=2d0f 10b0=2d10 10b1=2d11 10b2=2d12 10b3=2d13 10b4=2d14 10b5=2d15 10b6=2d16
10b7=2d17 10b8=2d18 10b9=2d19 10ba=2d1a 10bb=2d1b 10bc=2d1c 10bd=2d1d 10be=2d1e 10bf=2d1f
10c0=2d20 10c1=2d21 10c2=2d22 10c3=2d23 10c4=2d24 10c5=2d25 10c6! 10c7=2d27 10c8! 10cd=2d2d 10ce!
10d0. 10fc=10dc 10fd. 115f~ 1161. 1249! 124a. 124e! 1250. 1257! 1258. 1259! 125a. 125e! 1260.
1289! 128a. 128e! 1290. 12b1! 12b2. 12b6! 12b8. 12bf! 12c0. 12c1! 12c2. 12c6! 12c8. 12d7! 12d8.
1311! 1312. 1316! 1318. 135b! 135d. 137d! 1380. 139a! 13a0. 13f6! 13f8=13f0 13f9=13f1 13fa=13f2
13fb=13f3 13fc=13f4 13fd=13f5 13fe! 1400. 1680! 1681. 169d! 16a0. 16f9! 1700. 1716! 171f. 1737!
1740. 1754! 1760. 176d! 176e. 1771! 1772. 1774! 1780. 17b4~ 17b6. 17de! 17e0. 17ea! 17f0. 17fa!
1800. 180b~ 1810. 181a! 1820. 1879! 1880. 18ab! 18b0. 18f6! 1900. 191f! 1920. 192c! 1930. 193c!
1940. 1941! 1944. 196e! 1970. 1975! 1980. 19ac! 19b0. 19ca! 19d0. 19db! 19de. 1a1c! 1a1e. 1a5f!
1a60. 1a7d! 1a7f. 1a8a! 1a90. 1a9a! 1aa0. 1aae! 1ab0. 1ade! 1ae0. 1aec! 1b00. 1b4d! 1b4e. 1bf4!
1bfc. 1c38! 1c3b. 1c4a! 1c4d. 1c80=432 1c81=434 1c82=43e 1c83=441 1c84=442 1c86=44a 1c87=463
1c88=a64b 1c89=1c8a 1c8a. 1c8b! 1c90=10d0 1c91=10d1 1c92=10d2 1c93=10d3 1c94=10d4 1c95=10d5
1c96=10d6 1c97=10d7 1c98=10d8 1c99=10d9 1c9a=10da 1c9b=10db 1c9c=10dc 1c9d=10dd 1c9e=10de
1c9f=10df 1ca0=10e0 1ca1=10e1 1ca2=10e2 1ca3=10e3 1ca4=10e4 1ca5=10e5 1ca6=10e6 1ca7=10e7
1ca8=10e8 1ca9=10e9 1caa=10ea 1cab=10eb 1cac=10ec 1cad=10ed 1cae=10ee 1caf=10ef 1cb0=10f0
1cb1=10f1 1cb2=10f2 1cb3=10f3 1cb4=10f4 1cb5=10f5 1cb6=10f6 1cb7=10f7 1cb8=10f8 1cb9=10f9
1cba=10fa 1cbb! 1cbd=10fd 1cbe=10fe 1cbf=10ff 1cc0. 1cc8! 1cd0. 1cfb! 1d00. 1d2c=61 1d2d=e6
1d2e=62 1d2f. 1d30=64 1d31=65 1d32=1dd 1d33=67 1d34=68 1d35=69 1d36=6a 1d37=6b 1d38=6c 1d39=6d
1d3a=6e 1d3b. 1d3c=6f 1d3d=223 1d3e=70 1d3f=72 1d40=74 1d41=75 1d42=77 1d43=61 1d44=250 1d45=251
1d46=1d02 1d47=62 1d48=64 1d49=65 1d4a=259 1d4b=25b 1d4c=25c 1d4d=67 1d4e. 1d4f=6b 1d50=6d
1d51=14b 1d52=6f 1d53=254 1d54=1d16 1d55=1d17 1d56=70 1d57=74 1d58=75 1d59=1d1d 1d5a=26f 1d5b=76
1d5c=1d25 1d5d=3b2 1d5e=3b3 1d5f=3b4 1d60=3c6 1d61=3c7 1d62=69 1d63=72 1d64=75 1d65=76 1d66=3b2
1d67=3b3 1d68=3c1 1d69=3c6 1d6a=3c7 1d6b. 1d78=43d 1d79. 1d9b=252 1d9c=63 1d9d=255 1d9e=f0
1d9f=25c 1da0=66 1da1=25f 1da2=261 1da3=265 1da4=268 1da5=269 1da6=26a 1da7=1d7b 1da8=29d
1da9=26d 1daa=1d85 1dab=29f 1dac=271 1dad=270 1dae=272 1daf=273 1db0=274 1db1=275 1db2=278
1db3=282 1db4=283 1db5=1ab 1db6=289 1db7=28a 1db8=1d1c 1db9=28b 1dba=28c 1dbb=7a 1dbc=290
1dbd=291 1dbe=292 1dbf=3b8 1dc0. 1e00=1e01 1e01. 1e02=1e03 1e03. 1e04=1e05 1e05. 1e06=1e07 1e07.
1e08=1e09 1e09. 1e0a=1e0b 1e0b. 1e0c=1e0d 1e0d. 1e0e=1e0f 1e0f. 1e10=1e11 1e11. 1e12=1e13 1e13.
1e14=1e15 1e15. 1e16=1e17 1e17. 1e18=1e19 1e19. 1e1a=1e1b 1e1b. 1e1c=1e1d 1e1d. 1e1e=1e1f 1e1f.
1e20=1e21 1e21. 1e22=1e23 1e23. 1e24=1e25 1e25. 1e26=1e27 1e27. 1e28=1e29 1e29. 1e2a=1e2b 1e2b.
1e2c=1e2d 1e2d. 1e2e=1e2f 1e2f. 1e30=1e31 1e31. 1e32=1e33 1e33. 1e34=1e35 1e35. 1e36=1e37 1e37.
1e38=1e39 1e39. 1e3a=1e3b 1e3b. 1e3c=1e3d 1e3d. 1e3e=1e3f 1e3f. 1e40=1e41 1e41. 1e42=1e43 1e43.
1e44=1e45 1e45. 1e46=1e47 1e47. 1e48=1e49 1e49. 1e4a=1e4b 1e4b. 1e4c=1e4d 1e4d. 1e4e=1e4f 1e4f.
1e50=1e51 1e51. 1e52=1e53 1e53. 1e54=1e55 1e55. 1e56=1e57 1e57. 1e58=1e59 1e59. 1e5a=1e5b 1e5b.
1e5c=1e5d 1e5d. 1e5e=1e5f 1e5f. 1e60=1e61 1e61. 1e62=1e63 1e63. 1e64=1e65 1e65. 1e66=1e67 1e67.
1e68=1e69 1e69. 1e6a=1e6b 1e6b. 1e6c=1e6d 1e6d. 1e6e=1e6f 1e6f. 1e70=1e71 1e71. 1e72=1e73 1e73.
1e74=1e75 1e75. 1e76=1e77 1e77. 1e78=1e79 1e79. 1e7a=1e7b 1e7b. 1e7c=1e7d 1e7d. 1e7e=1e7f 1e7f.
1e80=1e81 1e81. 1e82=1e83 1e83. 1e84=1e85 1e85. 1e86=1e87 1e87. 1e88=1e89 1e89. 1e8a=1e8b 1e8b.
1e8c=1e8d 1e8d. 1e8e=1e8f 1e8f. 1e90=1e91 1e91. 1e92=1e93 1e93. 1e94=1e95 1e95. 1e9a=61+2be
1e9b=1e61 1e9c. 1e9e=df 1e9f. 1ea0=1ea1 1ea1. 1ea2=1ea3 1ea3. 1ea4=1ea5 1ea5. 1ea6=1ea7 1ea7.
1ea8=1ea9 1ea9. 1eaa=1eab 1eab. 1eac=1ead 1ead. 1eae=1eaf 1eaf. 1eb0=1eb1 1eb1. 1eb2=1eb3 1eb3.
1eb4=1eb5 1eb5. 1eb6=1eb7 1eb7. 1eb8=1eb9 1eb9. 1eba=1ebb 1ebb. 1ebc=1ebd 1ebd. 1ebe=1ebf 1ebf.
1ec0=1ec1 1ec1. 1ec2=1ec3 1ec3. 1ec4=1ec5 1ec5. 1ec6=1ec7 1ec7. 1ec8=1ec9 1ec9. 1eca=1ecb 1ecb.
1ecc=1ecd 1ecd. 1ece=1ecf 1ecf. 1ed0=1ed1 1ed1. 1ed2=1ed3 1ed3. 1ed4=1ed5 1ed5. 1ed6=1ed7 1ed7.
1ed8=1ed9 1ed9. 1eda=1edb 1edb. 1edc=1edd 1edd. 1ede=1edf 1edf. 1ee0=1ee1 1ee1. 1ee2=1ee3 1ee3.
1ee4=1ee5 1ee5. 1ee6=1ee7 1ee7. 1ee8=1ee9 1ee9. 1eea=1eeb 1eeb. 1eec=1eed 1eed. 1eee=1eef 1eef.
1ef0=1ef1 1ef1. 1ef2=1ef3 1ef3. 1ef4=1ef5 1ef5. 1ef6=1ef7 1ef7. 1ef8=1ef9 1ef9. 1efa=1efb 1efb.
1efc=1efd 1efd. 1efe=1eff 1eff. 1f08=1f00 1f09=1f01 1f0a=1f02 1f0b=1f03 1f0c=1f04 1f0d=1f05
1f0e=1f06 1f0f=1f07 1f10. 1f16! 1f18=1f10 1f19=1f11 1f1a=1f12 1f1b=1f13 1f1c=1f14 1f1d=1f15 1f1e!
1f20. 1f28=1f20 1f29=1f21 1f2a=1f22 1f2b=1f23 1f2c=1f24 1f2d=1f25 1f2e=1f26 1f2f=1f27 1f30.
1f38=1f30 1f39=1f31 1f3a=1f32 1f3b=1f33 1f3c=1f34 1f3d=1f35 1f3e=1f36 1f3f=1f37 1f40. 1f46!
1f48=1f40 1f49=1f41 1f4a=1f42 1f4b=1f43 1f4c=1f44 1f4d=1f45 1f4e! 1f50. 1f58! 1f59=1f51 1f5a!
1f5b=1f53 1f5c! 1f5d=1f55 1f5e! 1f5f=1f57 1f60. 1f68=1f60 1f69=1f61 1f6a=1f62 1f6b=1f63 1f6c=1f64
1f6d=1f65 1f6e=1f66 1f6f=1f67 1f70. 1f71=3ac 1f72. 1f73=3ad 1f74. 1f75=3ae 1f76. 1f77=3af 1f78.
1f79=3cc 1f7a. 1f7b=3cd 1f7c. 1f7d=3ce 1f7e! 1f80=1f00+3b9 1f81=1f01+3b9 1f82=1f02+3b9
1f83=1f03+3b9 1f84=1f04+3b9 1f85=1f05+3b9 1f86=1f06+3b9 1f87=1f07+3b9 1f88=1f00+3b9 1f89=1f01+3b9
1f8a=1f02+3b9 1f8b=1f03+3b9 1f8c=1f04+3b9 1f8d=1f05+3b9 1f8e=1f06+3b9 1f8f=1f07+3b9 1f90=1f20+3b9
1f91=1f21+3b9 1f92=1f22+3b9 1f93=1f23+3b9 1f94=1f24+3b9 1f95=1f25+3b9 1f96=1f26+3b9 1f97=1f27+3b9
1f98=1f20+3b9 1f99=1f21+3b9 1f9a=1f22+3b9 1f9b=1f23+3b9 1f9c=1f24+3b9 1f9d=1f25+3b9 1f9e=1f26+3b9
1f9f=1f27+3b9 1fa0=1f60+3b9 1fa1=1f61+3b9 1fa2=1f62+3b9 1fa3=1f63+3b9 1fa4=1f64+3b9 1fa5=1f65+3b9
1fa6=1f66+3b9 1fa7=1f67+3b9 1fa8=1f60+3b9 1fa9=1f61+3b9 1faa=1f62+3b9 1fab=1f63+3b9 1fac=1f64+3b9
1fad=1f65+3b9 1fae=1f66+3b9 1faf=1f67+3b9 1fb0. 1fb2=1f70+3b9 1fb3=3b1+3b9 1fb4=3ac+3b9 1fb5!
1fb6. 1fb7=1fb6+3b9 1fb8=1fb0 1fb9=1fb1 1fba=1f70 1fbb=3ac 1fbc=3b1+3b9 1fbd=20+313 1fbe=3b9
1fbf=20+313 1fc0=20+342 1fc1=20+308+342 1fc2=1f74+3b9 1fc3=3b7+3b9 1fc4=3ae+3b9 1fc5! 1fc6.
1fc7=1fc6+3b9 1fc8=1f72 1fc9=3ad 1fca=1f74 1fcb=3ae 1fcc=3b7+3b9 1fcd=20+313+300 1fce=20+313+301
1fcf=20+313+342 1fd0. 1fd3=390 1fd4! 1fd6. 1fd8=1fd0 1fd9=1fd1 1fda=1f76 1fdb=3af 1fdc!
1fdd=20+314+300 1fde=20+314+301 1fdf=20+314+342 1fe0. 1fe3=3b0 1fe4. 1fe8=1fe0 1fe9=1fe1
1fea=1f7a 1feb=3cd 1fec=1fe5 1fed=20+308+300 1fee=20+308+301 1fef=60 1ff0! 1ff2=1f7c+3b9
1ff3=3c9+3b9 1ff4=3ce+3b9 1ff5! 1ff6. 1ff7=1ff6+3b9 1ff8=1f78 1ff9=3cc 1ffa=1f7c 1ffb=3ce
1ffc=3c9+3b9 1ffd=20+301 1ffe=20+314 1fff! 2000=20 200b~ 200c. 200e! 2010. 2011=2010 2012.
2017=20+333 2018. 2024! 2027. 2028! 202f=20 2030. 2033=2032+2032 2034=2032+2032+2032 2035.
2036=2035+2035 2037=2035+2035+2035 2038. 203c=21+21 203d. 203e=20+305 203f. 2047=3f+3f 2048=3f+21
2049=21+3f 204a. 2057=2032+2032+2032+2032 2058. 205f=20 2060~ 2065! 206a~ 2070=30 2071=69 2072!
2074=34 2075=35 2076=36 2077=37 2078=38 2079=39 207a=2b 207b=2212 207c=3d 207d=28 207e=29 207f=6e
2080=30 2081=31 2082=32 2083=33 2084=34 2085=35 2086=36 2087=37 2088=38 2089=39 208a=2b 208b=2212
208c=3d 208d=28 208e=29 208f! 2090=61 2091=65 2092=6f 2093=78 2094=259 2095=68 2096=6b 2097=6c
2098=6d 2099=6e 209a=70 209b=73 209c=74 209d! 20a0. 20a8=72+73 20a9. 20c2! 20d0. 20f1!
2100=61+2f+63 2101=61+2f+73 2102=63 2103=b0+63 2104. 2105=63+2f+6f 2106=63+2f+75 2107=25b 2108.
2109=b0+66 210a=67 210b=68 210f=127 2110=69 2112=6c 2114. 2115=6e 2116=6e+6f 2117. 2119=70
211a=71 211b=72 211e. 2120=73+6d 2121=74+65+6c 2122=74+6d 2123. 2124=7a 2125. 2126=3c9 2127.
2128=7a 2129. 212a=6b 212b=e5 212c=62 212d=63 212e. 212f=65 2131=66 2132=214e 2133=6d 2134=6f
2135=5d0 2136=5d1 2137=5d2 2138=5d3 2139=69 213a. 213b=66+61+78 213c=3c0 213d=3b3 213f=3c0
2140=2211 2141. 2145=64 2147=65 2148=69 2149=6a 214a. 2150=31+2044+37 2151=31+2044+39
2152=31+2044+31+30 2153=31+2044+33 2154=32+2044+33 2155=31+2044+35 2156=32+2044+35
2157=33+2044+35 2158=34+2044+35 2159=31+2044+36 215a=35+2044+36 215b=31+2044+38 215c=33+2044+38
215d=35+2044+38 215e=37+2044+38 215f=31+2044 2160=69 2161=69+69 2162=69+69+69 2163=69+76 2164=76
2165=76+69 2166=76+69+69 2167=76+69+69+69 2168=69+78 2169=78 216a=78+69 216b=78+69+69 216c=6c
216d=63 216e=64 216f=6d 2170=69 2171=69+69 2172=69+69+69 2173=69+76 2174=76 2175=76+69
2176=76+69+69 2177=76+69+69+69 2178=69+78 2179=78 217a=78+69 217b=78+69+69 217c=6c 217d=63
217e=64 217f=6d 2180. 2183=2184 2184. 2189=30+2044+33 218a. 218c! 2190. 222c=222b+222b
222d=222b+222b+222b 222e. 222f=222e+222e 2230=222e+222e+222e 2231. 2329=3008 232a=3009 232b.
242a! 2440. 244b! 2460=31 2461=32 2462=33 2463=34 2464=35 2465=36 2466=37 2467=38 2468=39
2469=31+30 246a=31+31 246b=31+32 246c=31+33 246d=31+34 246e=31+35 246f=31+36 2470=31+37
2471=31+38 2472=31+39 2473=32+30 2474=28+31+29 2475=28+32+29 2476=28+33+29 2477=28+34+29
2478=28+35+29 2479=28+36+29 247a=28+37+29 247b=28+38+29 247c=28+39+29 247d=28+31+30+29
247e=28+31+31+29 247f=28+31+32+29 2480=28+31+33+29 2481=28+31+34+29 2482=28+31+35+29
2483=28+31+36+29 2484=28+31+37+29 2485=28+31+38+29 2486=28+31+39+29 2487=28+32+30+29 2488!
249c=28+61+29 249d=28+62+29 249e=28+63+29 249f=28+64+29 24a0=28+65+29 24a1=28+66+29 24a2=28+67+29
24a3=28+68+29 24a4=28+69+29 24a5=28+6a+29 24a6=28+6b+29 24a7=28+6c+29 24a8=28+6d+29 24a9=28+6e+29
24aa=28+6f+29 24ab=28+70+29 24ac=28+71+29 24ad=28+72+29 24ae=28+73+29 24af=28+74+29 24b0=28+75+29
24b1=28+76+29 24b2=28+77+29 24b3=28+78+29 24b4=28+79+29 24b5=28+7a+29 24b6=61 24b7=62 24b8=63
24b9=64 24ba=65 24bb=66 24bc=67 24bd=68 24be=69 24bf=6a 24c0=6b 24c1=6c 24c2=6d 24c3=6e 24c4=6f
24c5=70 24c6=71 24c7=72 24c8=73 24c9=74 24ca=75 24cb=76 24cc=77 24cd=78 24ce=79 24cf=7a 24d0=61
24d1=62 24d2=63 24d3=64 24d4=65 24d5=66 24d6=67 24d7=68 24d8=69 24d9=6a 24da=6b 24db=6c 24dc=6d
24dd=6e 24de=6f 24df=70 24e0=71 24e1=72 24e2=73 24e3=74 24e4=75 24e5=76 24e6=77 24e7=78 24e8=79
24e9=7a 24ea=30 24eb. 2a0c=222b+222b+222b+222b 2a0d. 2a74=3a+3a+3d 2a75=3d+3d 2a76=3d+3d+3d 2a77.
2adc=2add+338 2add. 2b74! 2b76. 2c00=2c30 2c01=2c31 2c02=2c32 2c03=2c33 2c04=2c34 2c05=2c35
2c06=2c36 2c07=2c37 2c08=2c38 2c09=2c39 2c0a=2c3a 2c0b=2c3b 2c0c=2c3c 2c0d=2c3d 2c0e=2c3e
2c0f=2c3f 2c10=2c40 2c11=2c41 2c12=2c42 2c13=2c43 2c14=2c44 2c15=2c45 2c16=2c46 2c17=2c47
2c18=2c48 2c19=2c49 2c1a=2c4a 2c1b=2c4b 2c1c=2c4c 2c1d=2c4d 2c1e=2c4e 2c1f=2c4f 2c20=2c50
2c21=2c51 2c22=2c52 2c23=2c53 2c24=2c54 2c25=2c55 2c26=2c56 2c27=2c57 2c28=2c58 2c29=2c59
2c2a=2c5a 2c2b=2c5b 2c2c=2c5c 2c2d=2c5d 2c2e=2c5e 2c2f=2c5f 2c30. 2c60=2c61 2c61. 2c62=26b
2c63=1d7d 2c64=27d 2c65. 2c67=2c68 2c68. 2c69=2c6a 2c6a. 2c6b=2c6c 2c6c. 2c6d=251 2c6e=271
2c6f=250 2c70=252 2c71. 2c72=2c73 2c73. 2c75=2c76 2c76. 2c7c=6a 2c7d=76 2c7e=23f 2c7f=240
2c80=2c81 2c81. 2c82=2c83 2c83. 2c84=2c85 2c85. 2c86=2c87 2c87. 2c88=2c89 2c89. 2c8a=2c8b 2c8b.
2c8c=2c8d 2c8d. 2c8e=2c8f 2c8f. 2c90=2c91 2c91. 2c92=2c93 2c93. 2c94=2c95 2c95. 2c96=2c97 2c97.
2c98=2c99 2c99. 2c9a=2c9b 2c9b. 2c9c=2c9d 2c9d. 2c9e=2c9f 2c9f. 2ca0=2ca1 2ca1. 2ca2=2ca3 2ca3.
2ca4=2ca5 2ca5. 2ca6=2ca7 2ca7. 2ca8=2ca9 2ca9. 2caa=2cab 2cab. 2cac=2cad 2cad. 2cae=2caf 2caf.
2cb0=2cb1 2cb1. 2cb2=2cb3 2cb3. 2cb4=2cb5 2cb5. 2cb6=2cb7 2cb7. 2cb8=2cb9 2cb9. 2cba=2cbb 2cbb.
2cbc=2cbd 2cbd. 2cbe=2cbf 2cbf. 2cc0=2cc1 2cc1. 2cc2=2cc3 2cc3. 2cc4=2cc5 2cc5. 2cc6=2cc7 2cc7.
2cc8=2cc9 2cc9. 2cca=2ccb 2ccb. 2ccc=2ccd 2ccd. 2cce=2ccf 2ccf. 2cd0=2cd1 2cd1. 2cd2=2cd3 2cd3.
2cd4=2cd5 2cd5. 2cd6=2cd7 2cd7. 2cd8=2cd9 2cd9. 2cda=2cdb 2cdb. 2cdc=2cdd 2cdd. 2cde=2cdf 2cdf.
2ce0=2ce1 2ce1. 2ce2=2ce3 2ce3. 2ceb=2cec 2cec. 2ced=2cee 2cee. 2cf2=2cf3 2cf3. 2cf4! 2cf9. 2d26!
2d27. 2d28! 2d2d. 2d2e! 2d30. 2d68! 2d6f=2d61 2d70. 2d71! 2d7f. 2d97! 2da0. 2da7! 2da8. 2daf!
2db0. 2db7! 2db8. 2dbf! 2dc0. 2dc7! 2dc8. 2dcf! 2dd0. 2dd7! 2dd8. 2ddf! 2de0. 2e5e! 2e80. 2e9a!
2e9b. 2e9f=6bcd 2ea0. 2ef3=9f9f 2ef4! 2f00=4e00 2f01=4e28 2f02=4e36 2f03=4e3f 2f04=4e59 2f05=4e85
2f06=4e8c 2f07=4ea0 2f08=4eba 2f09=513f 2f0a=5165 2f0b=516b 2f0c=5182 2f0d=5196 2f0e=51ab
2f0f=51e0 2f10=51f5 2f11=5200 2f12=529b 2f13=52f9 2f14=5315 2f15=531a 2f16=5338 2f17=5341
2f18=535c 2f19=5369 2f1a=5382 2f1b=53b6 2f1c=53c8 2f1d=53e3 2f1e=56d7 2f1f=571f 2f20=58eb
2f21=5902 2f22=590a 2f23=5915 2f24=5927 2f25=5973 2f26=5b50 2f27=5b80 2f28=5bf8 2f29=5c0f
2f2a=5c22 2f2b=5c38 2f2c=5c6e 2f2d=5c71 2f2e=5ddb 2f2f=5de5 2f30=5df1 2f31=5dfe 2f32=5e72
2f33=5e7a 2f34=5e7f 2f35=5ef4 2f36=5efe 2f37=5f0b 2f38=5f13 2f39=5f50 2f3a=5f61 2f3b=5f73
2f3c=5fc3 2f3d=6208 2f3e=6236 2f3f=624b 2f40=652f 2f41=6534 2f42=6587 2f43=6597 2f44=65a4
2f45=65b9 2f46=65e0 2f47=65e5 2f48=66f0 2f49=6708 2f4a=6728 2f4b=6b20 2f4c=6b62 2f4d=6b79
2f4e=6bb3 2f4f=6bcb 2f50=6bd4 2f51=6bdb 2f52=6c0f 2f53=6c14 2f54=6c34 2f55=706b 2f56=722a
2f57=7236 2f58=723b 2f59=723f 2f5a=7247 2f5b=7259 2f5c=725b 2f5d=72ac 2f5e=7384 2f5f=7389
2f60=74dc 2f61=74e6 2f62=7518 2f63=751f 2f64=7528 2f65=7530 2f66=758b 2f67=7592 2f68=7676
2f69=767d 2f6a=76ae 2f6b=76bf 2f6c=76ee 2f6d=77db 2f6e=77e2 2f6f=77f3 2f70=793a 2f71=79b8
2f72=79be 2f73=7a74 2f74=7acb 2f75=7af9 2f76=7c73 2f77=7cf8 2f78=7f36 2f79=7f51 2f7a=7f8a
2f7b=7fbd 2f7c=8001 2f7d=800c 2f7e=8012 2f7f=8033 2f80=807f 2f81=8089 2f82=81e3 2f83=81ea
2f84=81f3 2f85=81fc 2f86=820c 2f87=821b 2f88=821f 2f89=826e 2f8a=8272 2f8b=8278 2f8c=864d
2f8d=866b 2f8e=8840 2f8f=884c 2f90=8863 2f91=897e 2f92=898b 2f93=89d2 2f94=8a00 2f95=8c37
2f96=8c46 2f97=8c55 2f98=8c78 2f99=8c9d 2f9a=8d64 2f9b=8d70 2f9c=8db3 2f9d=8eab 2f9e=8eca
2f9f=8f9b 2fa0=8fb0 2fa1=8fb5 2fa2=9091 2fa3=9149 2fa4=91c6 2fa5=91cc 2fa6=91d1 2fa7=9577
2fa8=9580 2fa9=961c 2faa=96b6 2fab=96b9 2fac=96e8 2fad=9751 2fae=975e 2faf=9762 2fb0=9769
2fb1=97cb 2fb2=97ed 2fb3=97f3 2fb4=9801 2fb5=98a8 2fb6=98db 2fb7=98df 2fb8=9996 2fb9=9999
2fba=99ac 2fbb=9aa8 2fbc=9ad8 2fbd=9adf 2fbe=9b25 2fbf=9b2f 2fc0=9b32 2fc1=9b3c 2fc2=9b5a
2fc3=9ce5 2fc4=9e75 2fc5=9e7f 2fc6=9ea5 2fc7=9ebb 2fc8=9ec3 2fc9=9ecd 2fca=9ed1 2fcb=9ef9
2fcc=9efd 2fcd=9f0e 2fce=9f13 2fcf=9f20 2fd0=9f3b 2fd1=9f4a 2fd2=9f52 2fd3=9f8d 2fd4=9f9c
2fd5=9fa0 2fd6! 3000=20 3001. 3002=2e 3003. 3036=3012 3037. 3038=5341 3039=5344 303a=5345 303b.
3040! 3041. 3097! 3099. 309b=20+3099 309c=20+309a 309d. 309f=3088+308a 30a0. 30ff=30b3+30c8 3100!
3105. 3130! 3131=1100 3132=1101 3133=11aa 3134=1102 3135=11ac 3136=11ad 3137=1103 3138=1104
3139=1105 313a=11b0 313b=11b1 313c=11b2 313d=11b3 313e=11b4 313f=11b5 3140=111a 3141=1106
3142=1107 3143=1108 3144=1121 3145=1109 3146=110a 3147=110b 3148=110c 3149=110d 314a=110e
314b=110f 314c=1110 314d=1111 314e=1112 314f=1161 3150=1162 3151=1163 3152=1164 3153=1165
3154=1166 3155=1167 3156=1168 3157=1169 3158=116a 3159=116b 315a=116c 315b=116d 315c=116e
315d=116f 315e=1170 315f=1171 3160=1172 3161=1173 3162=1174 3163=1175 3164~ 3165=1114 3166=1115
3167=11c7 3168=11c8 3169=11cc 316a=11ce 316b=11d3 316c=11d7 316d=11d9 316e=111c 316f=11dd
3170=11df 3171=111d 3172=111e 3173=1120 3174=1122 3175=1123 3176=1127 3177=1129 3178=112b
3179=112c 317a=112d 317b=112e 317c=112f 317d=1132 317e=1136 317f=1140 3180=1147 3181=114c
3182=11f1 3183=11f2 3184=1157 3185=1158 3186=1159 3187=1184 3188=1185 3189=1188 318a=1191
318b=1192 318c=1194 318d=119e 318e=11a1 318f! 3190. 3192=4e00 3193=4e8c 3194=4e09 3195=56db
3196=4e0a 3197=4e2d 3198=4e0b 3199=7532 319a=4e59 319b=4e19 319c=4e01 319d=5929 319e=5730
319f=4eba 31a0. 31e6! 31f0. 3200=28+1100+29 3201=28+1102+29 3202=28+1103+29 3203=28+1105+29
3204=28+1106+29 3205=28+1107+29 3206=28+1109+29 3207=28+110b+29 3208=28+110c+29 3209=28+110e+29
320a=28+110f+29 320b=28+1110+29 320c=28+1111+29 320d=28+1112+29 320e=28+ac00+29 320f=28+b098+29
3210=28+b2e4+29 3211=28+b77c+29 3212=28+b9c8+29 3213=28+bc14+29 3214=28+c0ac+29 3215=28+c544+29
3216=28+c790+29 3217=28+cc28+29 3218=28+ce74+29 3219=28+d0c0+29 321a=28+d30c+29 321b=28+d558+29
321c=28+c8fc+29 321d=28+c624+c804+29 321e=28+c624+d6c4+29 321f! 3220=28+4e00+29 3221=28+4e8c+29
3222=28+4e09+29 3223=28+56db+29 3224=28+4e94+29 3225=28+516d+29 3226=28+4e03+29 3227=28+516b+29
3228=28+4e5d+29 3229=28+5341+29 322a=28+6708+29 322b=28+706b+29 322c=28+6c34+29 322d=28+6728+29
322e=28+91d1+29 322f=28+571f+29 3230=28+65e5+29 3231=28+682a+29 3232=28+6709+29 3233=28+793e+29
3234=28+540d+29 3235=28+7279+29 3236=28+8ca1+29 3237=28+795d+29 3238=28+52b4+29 3239=28+4ee3+29
323a=28+547c+29 323b=28+5b66+29 323c=28+76e3+29 323d=28+4f01+29 323e=28+8cc7+29 323f=28+5354+29
3240=28+796d+29 3241=28+4f11+29 3242=28+81ea+29 3243=28+81f3+29 3244=554f 3245=5e7c 3246=6587
3247=7b8f 3248. 3250=70+74+65 3251=32+31 3252=32+32 3253=32+33 3254=32+34 3255=32+35 3256=32+36
3257=32+37 3258=32+38 3259=32+39 325a=33+30 325b=33+31 325c=33+32 325d=33+33 325e=33+34
325f=33+35 3260=1100 3261=1102 3262=1103 3263=1105 3264=1106 3265=1107 3266=1109 3267=110b
3268=110c 3269=110e 326a=110f 326b=1110 326c=1111 326d=1112 326e=ac00 326f=b098 3270=b2e4
3271=b77c 3272=b9c8 3273=bc14 3274=c0ac 3275=c544 3276=c790 3277=cc28 3278=ce74 3279=d0c0
327a=d30c 327b=d558 327c=cc38+ace0 327d=c8fc+c758 327e=c6b0 327f. 3280=4e00 3281=4e8c 3282=4e09
3283=56db 3284=4e94 3285=516d 3286=4e03 3287=516b 3288=4e5d 3289=5341 328a=6708 328b=706b
328c=6c34 328d=6728 328e=91d1 328f=571f 3290=65e5 3291=682a 3292=6709 3293=793e 3294=540d
3295=7279 3296=8ca1 3297=795d 3298=52b4 3299=79d8 329a=7537 329b=5973 329c=9069 329d=512a
329e=5370 329f=6ce8 32a0=9805 32a1=4f11 32a2=5199 32a3=6b63 32a4=4e0a 32a5=4e2d 32a6=4e0b
32a7=5de6 32a8=53f3 32a9=533b 32aa=5b97 32ab=5b66 32ac=76e3 32ad=4f01 32ae=8cc7 32af=5354
32b0=591c 32b1=33+36 32b2=33+37 32b3=33+38 32b4=33+39 32b5=34+30 32b6=34+31 32b7=34+32 32b8=34+33
32b9=34+34 32ba=34+35 32bb=34+36 32bc=34+37 32bd=34+38 32be=34+39 32bf=35+30 32c0=31+6708
32c1=32+6708 32c2=33+6708 32c3=34+6708 32c4=35+6708 32c5=36+6708 32c6=37+6708 32c7=38+6708
32c8=39+6708 32c9=31+30+6708 32ca=31+31+6708 32cb=31+32+6708 32cc=68+67 32cd=65+72+67 32ce=65+76
32cf=6c+74+64 32d0=30a2 32d1=30a4 32d2=30a6 32d3=30a8 32d4=30aa 32d5=30ab 32d6=30ad 32d7=30af
32d8=30b1 32d9=30b3 32da=30b5 32db=30b7 32dc=30b9 32dd=30bb 32de=30bd 32df=30bf 32e0=30c1
32e1=30c4 32e2=30c6 32e3=30c8 32e4=30ca 32e5=30cb 32e6=30cc 32e7=30cd 32e8=30ce 32e9=30cf
32ea=30d2 32eb=30d5 32ec=30d8 32ed=30db 32ee=30de 32ef=30df 32f0=30e0 32f1=30e1 32f2=30e2
32f3=30e4 32f4=30e6 32f5=30e8 32f6=30e9 32f7=30ea 32f8=30eb 32f9=30ec 32fa=30ed 32fb=30ef
32fc=30f0 32fd=30f1 32fe=30f2 32ff=4ee4+548c 3300=30a2+30d1+30fc+30c8 3301=30a2+30eb+30d5+30a1
3302=30a2+30f3+30da+30a2 3303=30a2+30fc+30eb 3304=30a4+30cb+30f3+30b0 3305=30a4+30f3+30c1
3306=30a6+30a9+30f3 3307=30a8+30b9+30af+30fc+30c9 3308=30a8+30fc+30ab+30fc 3309=30aa+30f3+30b9
330a=30aa+30fc+30e0 330b=30ab+30a4+30ea 330c=30ab+30e9+30c3+30c8 330d=30ab+30ed+30ea+30fc
330e=30ac+30ed+30f3 330f=30ac+30f3+30de 3310=30ae+30ac 3311=30ae+30cb+30fc
3312=30ad+30e5+30ea+30fc 3313=30ae+30eb+30c0+30fc 3314=30ad+30ed 3315=30ad+30ed+30b0+30e9+30e0
3316=30ad+30ed+30e1+30fc+30c8+30eb 3317=30ad+30ed+30ef+30c3+30c8 3318=30b0+30e9+30e0
3319=30b0+30e9+30e0+30c8+30f3 331a=30af+30eb+30bc+30a4+30ed 331b=30af+30ed+30fc+30cd
331c=30b1+30fc+30b9 331d=30b3+30eb+30ca 331e=30b3+30fc+30dd 331f=30b5+30a4+30af+30eb
3320=30b5+30f3+30c1+30fc+30e0 3321=30b7+30ea+30f3+30b0 3322=30bb+30f3+30c1 3323=30bb+30f3+30c8
3324=30c0+30fc+30b9 3325=30c7+30b7 3326=30c9+30eb 3327=30c8+30f3 3328=30ca+30ce
3329=30ce+30c3+30c8 332a=30cf+30a4+30c4 332b=30d1+30fc+30bb+30f3+30c8 332c=30d1+30fc+30c4
332d=30d0+30fc+30ec+30eb 332e=30d4+30a2+30b9+30c8+30eb 332f=30d4+30af+30eb 3330=30d4+30b3
3331=30d3+30eb 3332=30d5+30a1+30e9+30c3+30c9 3333=30d5+30a3+30fc+30c8
3334=30d6+30c3+30b7+30a7+30eb 3335=30d5+30e9+30f3 3336=30d8+30af+30bf+30fc+30eb 3337=30da+30bd
3338=30da+30cb+30d2 3339=30d8+30eb+30c4 333a=30da+30f3+30b9 333b=30da+30fc+30b8
333c=30d9+30fc+30bf 333d=30dd+30a4+30f3+30c8 333e=30dc+30eb+30c8 333f=30db+30f3
3340=30dd+30f3+30c9 3341=30db+30fc+30eb 3342=30db+30fc+30f3 3343=30de+30a4+30af+30ed
3344=30de+30a4+30eb 3345=30de+30c3+30cf 3346=30de+30eb+30af 3347=30de+30f3+30b7+30e7+30f3
3348=30df+30af+30ed+30f3 3349=30df+30ea 334a=30df+30ea+30d0+30fc+30eb 334b=30e1+30ac
334c=30e1+30ac+30c8+30f3 334d=30e1+30fc+30c8+30eb 334e=30e4+30fc+30c9 334f=30e4+30fc+30eb
3350=30e6+30a2+30f3 3351=30ea+30c3+30c8+30eb 3352=30ea+30e9 3353=30eb+30d4+30fc
3354=30eb+30fc+30d6+30eb 3355=30ec+30e0 3356=30ec+30f3+30c8+30b2+30f3 3357=30ef+30c3+30c8
3358=30+70b9 3359=31+70b9 335a=32+70b9 335b=33+70b9 335c=34+70b9 335d=35+70b9 335e=36+70b9
335f=37+70b9 3360=38+70b9 3361=39+70b9 3362=31+30+70b9 3363=31+31+70b9 3364=31+32+70b9
3365=31+33+70b9 3366=31+34+70b9 3367=31+35+70b9 3368=31+36+70b9 3369=31+37+70b9 336a=31+38+70b9
336b=31+39+70b9 336c=32+30+70b9 336d=32+31+70b9 336e=32+32+70b9 336f=32+33+70b9 3370=32+34+70b9
3371=68+70+61 3372=64+61 3373=61+75 3374=62+61+72 3375=6f+76 3376=70+63 3377=64+6d 3378=64+6d+32
3379=64+6d+33 337a=69+75 337b=5e73+6210 337c=662d+548c 337d=5927+6b63 337e=660e+6cbb
337f=682a+5f0f+4f1a+793e 3380=70+61 3381=6e+61 3382=3bc+61 3383=6d+61 3384=6b+61 3385=6b+62
3386=6d+62 3387=67+62 3388=63+61+6c 3389=6b+63+61+6c 338a=70+66 338b=6e+66 338c=3bc+66
338d=3bc+67 338e=6d+67 338f=6b+67 3390=68+7a 3391=6b+68+7a 3392=6d+68+7a 3393=67+68+7a
3394=74+68+7a 3395=3bc+6c 3396=6d+6c 3397=64+6c 3398=6b+6c 3399=66+6d 339a=6e+6d 339b=3bc+6d
339c=6d+6d 339d=63+6d 339e=6b+6d 339f=6d+6d+32 33a0=63+6d+32 33a1=6d+32 33a2=6b+6d+32
33a3=6d+6d+33 33a4=63+6d+33 33a5=6d+33 33a6=6b+6d+33 33a7=6d+2215+73 33a8=6d+2215+73+32
33a9=70+61 33aa=6b+70+61 33ab=6d+70+61 33ac=67+70+61 33ad=72+61+64 33ae=72+61+64+2215+73
33af=72+61+64+2215+73+32 33b0=70+73 33b1=6e+73 33b2=3bc+73 33b3=6d+73 33b4=70+76 33b5=6e+76
33b6=3bc+76 33b7=6d+76 33b8=6b+76 33b9=6d+76 33ba=70+77 33bb=6e+77 33bc=3bc+77 33bd=6d+77
33be=6b+77 33bf=6d+77 33c0=6b+3c9 33c1=6d+3c9 33c2! 33c3=62+71 33c4=63+63 33c5=63+64
33c6=63+2215+6b+67 33c7! 33c8=64+62 33c9=67+79 33ca=68+61 33cb=68+70 33cc=69+6e 33cd=6b+6b
33ce=6b+6d 33cf=6b+74 33d0=6c+6d 33d1=6c+6e 33d2=6c+6f+67 33d3=6c+78 33d4=6d+62 33d5=6d+69+6c
33d6=6d+6f+6c 33d7=70+68 33d8! 33d9=70+70+6d 33da=70+72 33db=73+72 33dc=73+76 33dd=77+62
33de=76+2215+6d 33df=61+2215+6d 33e0=31+65e5 33e1=32+65e5 33e2=33+65e5 33e3=34+65e5 33e4=35+65e5
33e5=36+65e5 33e6=37+65e5 33e7=38+65e5 33e8=39+65e5 33e9=31+30+65e5 33ea=31+31+65e5
33eb=31+32+65e5 33ec=31+33+65e5 33ed=31+34+65e5 33ee=31+35+65e5 33ef=31+36+65e5 33f0=31+37+65e5
33f1=31+38+65e5 33f2=31+39+65e5 33f3=32+30+65e5 33f4=32+31+65e5 33f5=32+32+65e5 33f6=32+33+65e5
33f7=32+34+65e5 33f8=32+35+65e5 33f9=32+36+65e5 33fa=32+37+65e5 33fb=32+38+65e5 33fc=32+39+65e5
33fd=33+30+65e5 33fe=33+31+65e5 33ff=67+61+6c 3400. a48d! a490. a4c7! a4d0. a62c! a640=a641 a641.
a642=a643 a643. a644=a645 a645. a646=a647 a647. a648=a649 a649. a64a=a64b a64b. a64c=a64d a64d.
a64e=a64f a64f. a650=a651 a651. a652=a653 a653. a654=a655 a655. a656=a657 a657. a658=a659 a659.
a65a=a65b a65b. a65c=a65d a65d. a65e=a65f a65f. a660=a661 a661. a662=a663 a663. a664=a665 a665.
a666=a667 a667. a668=a669 a669. a66a=a66b a66b. a66c=a66d a66d. a680=a681 a681. a682=a683 a683.
a684=a685 a685. a686=a687 a687. a688=a689 a689. a68a=a68b a68b. a68c=a68d a68d. a68e=a68f a68f.
a690=a691 a691. a692=a693 a693. a694=a695 a695. a696=a697 a697. a698=a699 a699. a69a=a69b a69b.
a69c=44a a69d=44c a69e. a6f8! a700. a722=a723 a723. a724=a725 a725. a726=a727 a727. a728=a729
a729. a72a=a72b a72b. a72c=a72d a72d. a72e=a72f a72f. a732=a733 a733. a734=a735 a735. a736=a737
a737. a738=a739 a739. a73a=a73b a73b. a73c=a73d a73d. a73e=a73f a73f. a740=a741 a741. a742=a743
a743. a744=a745 a745. a746=a747 a747. a748=a749 a749. a74a=a74b a74b. a74c=a74d a74d. a74e=a74f
a74f. a750=a751 a751. a752=a753 a753. a754=a755 a755. a756=a757 a757. a758=a759 a759. a75a=a75b
a75b. a75c=a75d a75d. a75e=a75f a75f. a760=a761 a761. a762=a763 a763. a764=a765 a765. a766=a767
a767. a768=a769 a769. a76a=a76b a76b. a76c=a76d a76d. a76e=a76f a76f. a770=a76f a771. a779=a77a
a77a. a77b=a77c a77c. a77d=1d79 a77e=a77f a77f. a780=a781 a781. a782=a783 a783. a784=a785 a785.
a786=a787 a787. a78b=a78c a78c. a78d=265 a78e. a790=a791 a791. a792=a793 a793. a796=a797 a797.
a798=a799 a799. a79a=a79b a79b. a79c=a79d a79d. a79e=a79f a79f. a7a0=a7a1 a7a1. a7a2=a7a3 a7a3.
a7a4=a7a5 a7a5. a7a6=a7a7 a7a7. a7a8=a7a9 a7a9. a7aa=266 a7ab=25c a7ac=261 a7ad=26c a7ae=26a
a7af. a7b0=29e a7b1=287 a7b2=29d a7b3=ab53 a7b4=a7b5 a7b5. a7b6=a7b7 a7b7. a7b8=a7b9 a7b9.
a7ba=a7bb a7bb. a7bc=a7bd a7bd. a7be=a7bf a7bf. a7c0=a7c1 a7c1. a7c2=a7c3 a7c3. a7c4=a794
a7c5=282 a7c6=1d8e a7c7=a7c8 a7c8. a7c9=a7ca a7ca. a7cb=264 a7cc=a7cd a7cd. a7ce=a7cf a7cf.
a7d0=a7d1 a7d1. a7d2=a7d3 a7d3. a7d4=a7d5 a7d5. a7d6=a7d7 a7d7. a7d8=a7d9 a7d9. a7da=a7db a7db.
a7dc=19b a7dd! a7f1=73 a7f2=63 a7f3=66 a7f4=71 a7f5=a7f6 a7f6. a7f8=127 a7f9=153 a7fa. a82d!
a830. a83a! a840. a878! a880. a8c6! a8ce. a8da! a8e0. a954! a95f. a97d! a980. a9ce! a9cf. a9da!
a9de. a9ff! aa00. aa37! aa40. aa4e! aa50. aa5a! aa5c. aac3! aadb. aaf7! ab01. ab07! ab09. ab0f!
ab11. ab17! ab20. ab27! ab28. ab2f! ab30. ab5c=a727 ab5d=ab37 ab5e=26b ab5f=ab52 ab60. ab69=28d
ab6a. ab6c! ab70=13a0 ab71=13a1 ab72=13a2 ab73=13a3 ab74=13a4 ab75=13a5 ab76=13a6 ab77=13a7
ab78=13a8 ab79=13a9 ab7a=13aa ab7b=13ab ab7c=13ac ab7d=13ad ab7e=13ae ab7f=13af ab80=13b0
ab81=13b1 ab82=13b2 ab83=13b3 ab84=13b4 ab85=13b5 ab86=13b6 ab87=13b7 ab88=13b8 ab89=13b9
ab8a=13ba ab8b=13bb ab8c=13bc ab8d=13bd ab8e=13be ab8f=13bf ab90=13c0 ab91=13c1 ab92=13c2
ab93=13c3 ab94=13c4 ab95=13c5 ab96=13c6 ab97=13c7 ab98=13c8 ab99=13c9 ab9a=13ca ab9b=13cb
ab9c=13cc ab9d=13cd ab9e=13ce ab9f=13cf aba0=13d0 aba1=13d1 aba2=13d2 aba3=13d3 aba4=13d4
aba5=13d5 aba6=13d6 aba7=13d7 aba8=13d8 aba9=13d9 abaa=13da abab=13db abac=13dc abad=13dd
abae=13de abaf=13df abb0=13e0 abb1=13e1 abb2=13e2 abb3=13e3 abb4=13e4 abb5=13e5 abb6=13e6
abb7=13e7 abb8=13e8 abb9=13e9 abba=13ea abbb=13eb abbc=13ec abbd=13ed abbe=13ee abbf=13ef abc0.
abee! abf0. abfa! ac00. d7a4! d7b0. d7c7! d7cb. d7fc! f900=8c48 f901=66f4 f902=8eca f903=8cc8
f904=6ed1 f905=4e32 f906=53e5 f907=9f9c f909=5951 f90a=91d1 f90b=5587 f90c=5948 f90d=61f6
f90e=7669 f90f=7f85 f910=863f f911=87ba f912=88f8 f913=908f f914=6a02 f915=6d1b f916=70d9
f917=73de f918=843d f919=916a f91a=99f1 f91b=4e82 f91c=5375 f91d=6b04 f91e=721b f91f=862d
f920=9e1e f921=5d50 f922=6feb f923=85cd f924=8964 f925=62c9 f926=81d8 f927=881f f928=5eca
f929=6717 f92a=6d6a f92b=72fc f92c=90ce f92d=4f86 f92e=51b7 f92f=52de f930=64c4 f931=6ad3
f932=7210 f933=76e7 f934=8001 f935=8606 f936=865c f937=8def f938=9732 f939=9b6f f93a=9dfa
f93b=788c f93c=797f f93d=7da0 f93e=83c9 f93f=9304 f940=9e7f f941=8ad6 f942=58df f943=5f04
f944=7c60 f945=807e f946=7262 f947=78ca f948=8cc2 f949=96f7 f94a=58d8 f94b=5c62 f94c=6a13
f94d=6dda f94e=6f0f f94f=7d2f f950=7e37 f951=964b f952=52d2 f953=808b f954=51dc f955=51cc
f956=7a1c f957=7dbe f958=83f1 f959=9675 f95a=8b80 f95b=62cf f95c=6a02 f95d=8afe f95e=4e39
f95f=5be7 f960=6012 f961=7387 f962=7570 f963=5317 f964=78fb f965=4fbf f966=5fa9 f967=4e0d
f968=6ccc f969=6578 f96a=7d22 f96b=53c3 f96c=585e f96d=7701 f96e=8449 f96f=8aaa f970=6bba
f971=8fb0 f972=6c88 f973=62fe f974=82e5 f975=63a0 f976=7565 f977=4eae f978=5169 f979=51c9
f97a=6881 f97b=7ce7 f97c=826f f97d=8ad2 f97e=91cf f97f=52f5 f980=5442 f981=5973 f982=5eec
f983=65c5 f984=6ffe f985=792a f986=95ad f987=9a6a f988=9e97 f989=9ece f98a=529b f98b=66c6
f98c=6b77 f98d=8f62 f98e=5e74 f98f=6190 f990=6200 f991=649a f992=6f23 f993=7149 f994=7489
f995=79ca f996=7df4 f997=806f f998=8f26 f999=84ee f99a=9023 f99b=934a f99c=5217 f99d=52a3
f99e=54bd f99f=70c8 f9a0=88c2 f9a1=8aaa f9a2=5ec9 f9a3=5ff5 f9a4=637b f9a5=6bae f9a6=7c3e
f9a7=7375 f9a8=4ee4 f9a9=56f9 f9aa=5be7 f9ab=5dba f9ac=601c f9ad=73b2 f9ae=7469 f9af=7f9a
f9b0=8046 f9b1=9234 f9b2=96f6 f9b3=9748 f9b4=9818 f9b5=4f8b f9b6=79ae f9b7=91b4 f9b8=96b8
f9b9=60e1 f9ba=4e86 f9bb=50da f9bc=5bee f9bd=5c3f f9be=6599 f9bf=6a02 f9c0=71ce f9c1=7642
f9c2=84fc f9c3=907c f9c4=9f8d f9c5=6688 f9c6=962e f9c7=5289 f9c8=677b f9c9=67f3 f9ca=6d41
f9cb=6e9c f9cc=7409 f9cd=7559 f9ce=786b f9cf=7d10 f9d0=985e f9d1=516d f9d2=622e f9d3=9678
f9d4=502b f9d5=5d19 f9d6=6dea f9d7=8f2a f9d8=5f8b f9d9=6144 f9da=6817 f9db=7387 f9dc=9686
f9dd=5229 f9de=540f f9df=5c65 f9e0=6613 f9e1=674e f9e2=68a8 f9e3=6ce5 f9e4=7406 f9e5=75e2
f9e6=7f79 f9e7=88cf f9e8=88e1 f9e9=91cc f9ea=96e2 f9eb=533f f9ec=6eba f9ed=541d f9ee=71d0
f9ef=7498 f9f0=85fa f9f1=96a3 f9f2=9c57 f9f3=9e9f f9f4=6797 f9f5=6dcb f9f6=81e8 f9f7=7acb
f9f8=7b20 f9f9=7c92 f9fa=72c0 f9fb=7099 f9fc=8b58 f9fd=4ec0 f9fe=8336 f9ff=523a fa00=5207
fa01=5ea6 fa02=62d3 fa03=7cd6 fa04=5b85 fa05=6d1e fa06=66b4 fa07=8f3b fa08=884c fa09=964d
fa0a=898b fa0b=5ed3 fa0c=5140 fa0d=55c0 fa0e. fa10=585a fa11. fa12=6674 fa13. fa15=51de fa16=732a
fa17=76ca fa18=793c fa19=795e fa1a=7965 fa1b=798f fa1c=9756 fa1d=7cbe fa1e=7fbd fa1f. fa20=8612
fa21. fa22=8af8 fa23. fa25=9038 fa26=90fd fa27. fa2a=98ef fa2b=98fc fa2c=9928 fa2d=9db4 fa2e=90de
fa2f=96b7 fa30=4fae fa31=50e7 fa32=514d fa33=52c9 fa34=52e4 fa35=5351 fa36=559d fa37=5606
fa38=5668 fa39=5840 fa3a=58a8 fa3b=5c64 fa3c=5c6e fa3d=6094 fa3e=6168 fa3f=618e fa40=61f2
fa41=654f fa42=65e2 fa43=6691 fa44=6885 fa45=6d77 fa46=6e1a fa47=6f22 fa48=716e fa49=722b
fa4a=7422 fa4b=7891 fa4c=793e fa4d=7949 fa4e=7948 fa4f=7950 fa50=7956 fa51=795d fa52=798d
fa53=798e fa54=7a40 fa55=7a81 fa56=7bc0 fa57=7df4 fa58=7e09 fa59=7e41 fa5a=7f72 fa5b=8005
fa5c=81ed fa5d=8279 fa5f=8457 fa60=8910 fa61=8996 fa62=8b01 fa63=8b39 fa64=8cd3 fa65=8d08
fa66=8fb6 fa67=9038 fa68=96e3 fa69=97ff fa6a=983b fa6b=6075 fa6c=242ee fa6d=8218 fa6e! fa70=4e26
fa71=51b5 fa72=5168 fa73=4f80 fa74=5145 fa75=5180 fa76=52c7 fa77=52fa fa78=559d fa79=5555
fa7a=5599 fa7b=55e2 fa7c=585a fa7d=58b3 fa7e=5944 fa7f=5954 fa80=5a62 fa81=5b28 fa82=5ed2
fa83=5ed9 fa84=5f69 fa85=5fad fa86=60d8 fa87=614e fa88=6108 fa89=618e fa8a=6160 fa8b=61f2
fa8c=6234 fa8d=63c4 fa8e=641c fa8f=6452 fa90=6556 fa91=6674 fa92=6717 fa93=671b fa94=6756
fa95=6b79 fa96=6bba fa97=6d41 fa98=6edb fa99=6ecb fa9a=6f22 fa9b=701e fa9c=716e fa9d=77a7
fa9e=7235 fa9f=72af faa0=732a faa1=7471 faa2=7506 faa3=753b faa4=761d faa5=761f faa6=76ca
faa7=76db faa8=76f4 faa9=774a faaa=7740 faab=78cc faac=7ab1 faad=7bc0 faae=7c7b faaf=7d5b
fab0=7df4 fab1=7f3e fab2=8005 fab3=8352 fab4=83ef fab5=8779 fab6=8941 fab7=8986 fab8=8996
fab9=8abf faba=8af8 fabb=8acb fabc=8b01 fabd=8afe fabe=8aed fabf=8b39 fac0=8b8a fac1=8d08
fac2=8f38 fac3=9072 fac4=9199 fac5=9276 fac6=967c fac7=96e3 fac8=9756 fac9=97db faca=97ff
facb=980b facc=983b facd=9b12 face=9f9c facf=2284a fad0=22844 fad1=233d5 fad2=3b9d fad3=4018
fad4=4039 fad5=25249 fad6=25cd0 fad7=27ed3 fad8=9f43 fad9=9f8e fada! fb00=66+66 fb01=66+69
fb02=66+6c fb03=66+66+69 fb04=66+66+6c fb05=73+74 fb07! fb13=574+576 fb14=574+565 fb15=574+56b
fb16=57e+576 fb17=574+56d fb18! fb1d=5d9+5b4 fb1e. fb1f=5f2+5b7 fb20=5e2 fb21=5d0 fb22=5d3
fb23=5d4 fb24=5db fb25=5dc fb26=5dd fb27=5e8 fb28=5ea fb29=2b fb2a=5e9+5c1 fb2b=5e9+5c2
fb2c=5e9+5bc+5c1 fb2d=5e9+5bc+5c2 fb2e=5d0+5b7 fb2f=5d0+5b8 fb30=5d0+5bc fb31=5d1+5bc
fb32=5d2+5bc fb33=5d3+5bc fb34=5d4+5bc fb35=5d5+5bc fb36=5d6+5bc fb37! fb38=5d8+5bc fb39=5d9+5bc
fb3a=5da+5bc fb3b=5db+5bc fb3c=5dc+5bc fb3d! fb3e=5de+5bc fb3f! fb40=5e0+5bc fb41=5e1+5bc fb42!
fb43=5e3+5bc fb44=5e4+5bc fb45! fb46=5e6+5bc fb47=5e7+5bc fb48=5e8+5bc fb49=5e9+5bc fb4a=5ea+5bc
fb4b=5d5+5b9 fb4c=5d1+5bf fb4d=5db+5bf fb4e=5e4+5bf fb4f=5d0+5dc fb50=671 fb52=67b fb56=67e
fb5a=680 fb5e=67a fb62=67f fb66=679 fb6a=6a4 fb6e=6a6 fb72=684 fb76=683 fb7a=686 fb7e=687
fb82=68d fb84=68c fb86=68e fb88=688 fb8a=698 fb8c=691 fb8e=6a9 fb92=6af fb96=6b3 fb9a=6b1
fb9e=6ba fba0=6bb fba4=6c0 fba6=6c1 fbaa=6be fbae=6d2 fbb0=6d3 fbb2. fbd3=6ad fbd7=6c7 fbd9=6c6
fbdb=6c8 fbdd=6c7+674 fbde=6cb fbe0=6c5 fbe2=6c9 fbe4=6d0 fbe8=649 fbea=626+627 fbec=626+6d5
fbee=626+648 fbf0=626+6c7 fbf2=626+6c6 fbf4=626+6c8 fbf6=626+6d0 fbf9=626+649 fbfc=6cc
fc00=626+62c fc01=626+62d fc02=626+645 fc03=626+649 fc04=626+64a fc05=628+62c fc06=628+62d
fc07=628+62e fc08=628+645 fc09=628+649 fc0a=628+64a fc0b=62a+62c fc0c=62a+62d fc0d=62a+62e
fc0e=62a+645 fc0f=62a+649 fc10=62a+64a fc11=62b+62c fc12=62b+645 fc13=62b+649 fc14=62b+64a
fc15=62c+62d fc16=62c+645 fc17=62d+62c fc18=62d+645 fc19=62e+62c fc1a=62e+62d fc1b=62e+645
fc1c=633+62c fc1d=633+62d fc1e=633+62e fc1f=633+645 fc20=635+62d fc21=635+645 fc22=636+62c
fc23=636+62d fc24=636+62e fc25=636+645 fc26=637+62d fc27=637+645 fc28=638+645 fc29=639+62c
fc2a=639+645 fc2b=63a+62c fc2c=63a+645 fc2d=641+62c fc2e=641+62d fc2f=641+62e fc30=641+645
fc31=641+649 fc32=641+64a fc33=642+62d fc34=642+645 fc35=642+649 fc36=642+64a fc37=643+627
fc38=643+62c fc39=643+62d fc3a=643+62e fc3b=643+644 fc3c=643+645 fc3d=643+649 fc3e=643+64a
fc3f=644+62c fc40=644+62d fc41=644+62e fc42=644+645 fc43=644+649 fc44=644+64a fc45=645+62c
fc46=645+62d fc47=645+62e fc48=645+645 fc49=645+649 fc4a=645+64a fc4b=646+62c fc4c=646+62d
fc4d=646+62e fc4e=646+645 fc4f=646+649 fc50=646+64a fc51=647+62c fc52=647+645 fc53=647+649
fc54=647+64a fc55=64a+62c fc56=64a+62d fc57=64a+62e fc58=64a+645 fc59=64a+649 fc5a=64a+64a
fc5b=630+670 fc5c=631+670 fc5d=649+670 fc5e=20+64c+651 fc5f=20+64d+651 fc60=20+64e+651
fc61=20+64f+651 fc62=20+650+651 fc63=20+651+670 fc64=626+631 fc65=626+632 fc66=626+645
fc67=626+646 fc68=626+649 fc69=626+64a fc6a=628+631 fc6b=628+632 fc6c=628+645 fc6d=628+646
fc6e=628+649 fc6f=628+64a fc70=62a+631 fc71=62a+632 fc72=62a+645 fc73=62a+646 fc74=62a+649
fc75=62a+64a fc76=62b+631 fc77=62b+632 fc78=62b+645 fc79=62b+646 fc7a=62b+649 fc7b=62b+64a
fc7c=641+649 fc7d=641+64a fc7e=642+649 fc7f=642+64a fc80=643+627 fc81=643+644 fc82=643+645
fc83=643+649 fc84=643+64a fc85=644+645 fc86=644+649 fc87=644+64a fc88=645+627 fc89=645+645
fc8a=646+631 fc8b=646+632 fc8c=646+645 fc8d=646+646 fc8e=646+649 fc8f=646+64a fc90=649+670
fc91=64a+631 fc92=64a+632 fc93=64a+645 fc94=64a+646 fc95=64a+649 fc96=64a+64a fc97=626+62c
fc98=626+62d fc99=626+62e fc9a=626+645 fc9b=626+647 fc9c=628+62c fc9d=628+62d fc9e=628+62e
fc9f=628+645 fca0=628+647 fca1=62a+62c fca2=62a+62d fca3=62a+62e fca4=62a+645 fca5=62a+647
fca6=62b+645 fca7=62c+62d fca8=62c+645 fca9=62d+62c fcaa=62d+645 fcab=62e+62c fcac=62e+645
fcad=633+62c fcae=633+62d fcaf=633+62e fcb0=633+645 fcb1=635+62d fcb2=635+62e fcb3=635+645
fcb4=636+62c fcb5=636+62d fcb6=636+62e fcb7=636+645 fcb8=637+62d fcb9=638+645 fcba=639+62c
fcbb=639+645 fcbc=63a+62c fcbd=63a+645 fcbe=641+62c fcbf=641+62d fcc0=641+62e fcc1=641+645
fcc2=642+62d fcc3=642+645 fcc4=643+62c fcc5=643+62d fcc6=643+62e fcc7=643+644 fcc8=643+645
fcc9=644+62c fcca=644+62d fccb=644+62e fccc=644+645 fccd=644+647 fcce=645+62c fccf=645+62d
fcd0=645+62e fcd1=645+645 fcd2=646+62c fcd3=646+62d fcd4=646+62e fcd5=646+645 fcd6=646+647
fcd7=647+62c fcd8=647+645 fcd9=647+670 fcda=64a+62c fcdb=64a+62d fcdc=64a+62e fcdd=64a+645
fcde=64a+647 fcdf=626+645 fce0=626+647 fce1=628+645 fce2=628+647 fce3=62a+645 fce4=62a+647
fce5=62b+645 fce6=62b+647 fce7=633+645 fce8=633+647 fce9=634+645 fcea=634+647 fceb=643+644
fcec=643+645 fced=644+645 fcee=646+645 fcef=646+647 fcf0=64a+645 fcf1=64a+647 fcf2=640+64e+651
fcf3=640+64f+651 fcf4=640+650+651 fcf5=637+649 fcf6=637+64a fcf7=639+649 fcf8=639+64a
fcf9=63a+649 fcfa=63a+64a fcfb=633+649 fcfc=633+64a fcfd=634+649 fcfe=634+64a fcff=62d+649
fd00=62d+64a fd01=62c+649 fd02=62c+64a fd03=62e+649 fd04=62e+64a fd05=635+649 fd06=635+64a
fd07=636+649 fd08=636+64a fd09=634+62c fd0a=634+62d fd0b=634+62e fd0c=634+645 fd0d=634+631
fd0e=633+631 fd0f=635+631 fd10=636+631 fd11=637+649 fd12=637+64a fd13=639+649 fd14=639+64a
fd15=63a+649 fd16=63a+64a fd17=633+649 fd18=633+64a fd19=634+649 fd1a=634+64a fd1b=62d+649
fd1c=62d+64a fd1d=62c+649 fd1e=62c+64a fd1f=62e+649 fd20=62e+64a fd21=635+649 fd22=635+64a
fd23=636+649 fd24=636+64a fd25=634+62c fd26=634+62d fd27=634+62e fd28=634+645 fd29=634+631
fd2a=633+631 fd2b=635+631 fd2c=636+631 fd2d=634+62c fd2e=634+62d fd2f=634+62e fd30=634+645
fd31=633+647 fd32=634+647 fd33=637+645 fd34=633+62c fd35=633+62d fd36=633+62e fd37=634+62c
fd38=634+62d fd39=634+62e fd3a=637+645 fd3b=638+645 fd3c=627+64b fd3e. fd50=62a+62c+645
fd51=62a+62d+62c fd53=62a+62d+645 fd54=62a+62e+645 fd55=62a+645+62c fd56=62a+645+62d
fd57=62a+645+62e fd58=62c+645+62d fd5a=62d+645+64a fd5b=62d+645+649 fd5c=633+62d+62c
fd5d=633+62c+62d fd5e=633+62c+649 fd5f=633+645+62d fd61=633+645+62c fd62=633+645+645
fd64=635+62d+62d fd66=635+645+645 fd67=634+62d+645 fd69=634+62c+64a fd6a=634+645+62e
fd6c=634+645+645 fd6e=636+62d+649 fd6f=636+62e+645 fd71=637+645+62d fd73=637+645+645
fd74=637+645+64a fd75=639+62c+645 fd76=639+645+645 fd78=639+645+649 fd79=63a+645+645
fd7a=63a+645+64a fd7b=63a+645+649 fd7c=641+62e+645 fd7e=642+645+62d fd7f=642+645+645
fd80=644+62d+645 fd81=644+62d+64a fd82=644+62d+649 fd83=644+62c+62c fd85=644+62e+645
fd87=644+645+62d fd89=645+62d+62c fd8a=645+62d+645 fd8b=645+62d+64a fd8c=645+62c+62d
fd8d=645+62c+645 fd8e=645+62e+62c fd8f=645+62e+645 fd90. fd92=645+62c+62e fd93=647+645+62c
fd94=647+645+645 fd95=646+62d+645 fd96=646+62d+649 fd97=646+62c+645 fd99=646+62c+649
fd9a=646+645+64a fd9b=646+645+649 fd9c=64a+645+645 fd9e=628+62e+64a fd9f=62a+62c+64a
fda0=62a+62c+649 fda1=62a+62e+64a fda2=62a+62e+649 fda3=62a+645+64a fda4=62a+645+649
fda5=62c+645+64a fda6=62c+62d+649 fda7=62c+645+649 fda8=633+62e+649 fda9=635+62d+64a
fdaa=634+62d+64a fdab=636+62d+64a fdac=644+62c+64a fdad=644+645+64a fdae=64a+62d+64a
fdaf=64a+62c+64a fdb0=64a+645+64a fdb1=645+645+64a fdb2=642+645+64a fdb3=646+62d+64a
fdb4=642+645+62d fdb5=644+62d+645 fdb6=639+645+64a fdb7=643+645+64a fdb8=646+62c+62d
fdb9=645+62e+64a fdba=644+62c+645 fdbb=643+645+645 fdbc=644+62c+645 fdbd=646+62c+62d
fdbe=62c+62d+64a fdbf=62d+62c+64a fdc0=645+62c+64a fdc1=641+645+64a fdc2=628+62d+64a
fdc3=643+645+645 fdc4=639+62c+645 fdc5=635+645+645 fdc6=633+62e+64a fdc7=646+62c+64a fdc8. fdd0!
fdf0=635+644+6d2 fdf1=642+644+6d2 fdf2=627+644+644+647 fdf3=627+643+628+631 fdf4=645+62d+645+62f
fdf5=635+644+639+645 fdf6=631+633+648+644 fdf7=639+644+64a+647 fdf8=648+633+644+645
fdf9=635+644+649 fdfa=635+644+649+20+627+644+644+647+20+639+644+64a+647+20+648+633+644+645
fdfb=62c+644+20+62c+644+627+644+647 fdfc=631+6cc+627+644 fdfd. fe00~ fe10=2c fe11=3001 fe12!
fe13=3a fe14=3b fe15=21 fe16=3f fe17=3016 fe18=3017 fe19! fe20. fe30! fe31=2014 fe32=2013 fe33=5f
fe35=28 fe36=29 fe37=7b fe38=7d fe39=3014 fe3a=3015 fe3b=3010 fe3c=3011 fe3d=300a fe3e=300b
fe3f=3008 fe40=3009 fe41=300c fe42=300d fe43=300e fe44=300f fe45. fe47=5b fe48=5d fe49=20+305
fe4d=5f fe50=2c fe51=3001 fe52! fe54=3b fe55=3a fe56=3f fe57=21 fe58=2014 fe59=28 fe5a=29 fe5b=7b
fe5c=7d fe5d=3014 fe5e=3015 fe5f=23 fe60=26 fe61=2a fe62=2b fe63=2d fe64=3c fe65=3e fe66=3d fe67!
fe68=5c fe69=24 fe6a=25 fe6b=40 fe6c! fe70=20+64b fe71=640+64b fe72=20+64c fe73. fe74=20+64d
fe75! fe76=20+64e fe77=640+64e fe78=20+64f fe79=640+64f fe7a=20+650 fe7b=640+650 fe7c=20+651
fe7d=640+651 fe7e=20+652 fe7f=640+652 fe80=621 fe81=622 fe83=623 fe85=624 fe87=625 fe89=626
fe8d=627 fe8f=628 fe93=629 fe95=62a fe99=62b fe9d=62c fea1=62d fea5=62e fea9=62f feab=630
fead=631 feaf=632 feb1=633 feb5=634 feb9=635 febd=636 fec1=637 fec5=638 fec9=639 fecd=63a
fed1=641 fed5=642 fed9=643 fedd=644 fee1=645 fee5=646 fee9=647 feed=648 feef=649 fef1=64a
fef5=644+622 fef7=644+623 fef9=644+625 fefb=644+627 fefd! feff~ ff00! ff01=21 ff02=22 ff03=23
ff04=24 ff05=25 ff06=26 ff07=27 ff08=28 ff09=29 ff0a=2a ff0b=2b ff0c=2c ff0d=2d ff0e=2e ff0f=2f
ff10=30 ff11=31 ff12=32 ff13=33 ff14=34 ff15=35 ff16=36 ff17=37 ff18=38 ff19=39 ff1a=3a ff1b=3b
ff1c=3c ff1d=3d ff1e=3e ff1f=3f ff20=40 ff21=61 ff22=62 ff23=63 ff24=64 ff25=65 ff26=66 ff27=67
ff28=68 ff29=69 ff2a=6a ff2b=6b ff2c=6c ff2d=6d ff2e=6e ff2f=6f ff30=70 ff31=71 ff32=72 ff33=73
ff34=74 ff35=75 ff36=76 ff37=77 ff38=78 ff39=79 ff3a=7a ff3b=5b ff3c=5c ff3d=5d ff3e=5e ff3f=5f
ff40=60 ff41=61 ff42=62 ff43=63 ff44=64 ff45=65 ff46=66 ff47=67 ff48=68 ff49=69 ff4a=6a ff4b=6b
ff4c=6c ff4d=6d ff4e=6e ff4f=6f ff50=70 ff51=71 ff52=72 ff53=73 ff54=74 ff55=75 ff56=76 ff57=77
ff58=78 ff59=79 ff5a=7a ff5b=7b ff5c=7c ff5d=7d ff5e=7e ff5f=2985 ff60=2986 ff61=2e ff62=300c
ff63=300d ff64=3001 ff65=30fb ff66=30f2 ff67=30a1 ff68=30a3 ff69=30a5 ff6a=30a7 ff6b=30a9
ff6c=30e3 ff6d=30e5 ff6e=30e7 ff6f=30c3 ff70=30fc ff71=30a2 ff72=30a4 ff73=30a6 ff74=30a8
ff75=30aa ff76=30ab ff77=30ad ff78=30af ff79=30b1 ff7a=30b3 ff7b=30b5 ff7c=30b7 ff7d=30b9
ff7e=30bb ff7f=30bd ff80=30bf ff81=30c1 ff82=30c4 ff83=30c6 ff84=30c8 ff85=30ca ff86=30cb
ff87=30cc ff88=30cd ff89=30ce ff8a=30cf ff8b=30d2 ff8c=30d5 ff8d=30d8 ff8e=30db ff8f=30de
ff90=30df ff91=30e0 ff92=30e1 ff93=30e2 ff94=30e4 ff95=30e6 ff96=30e8 ff97=30e9 ff98=30ea
ff99=30eb ff9a=30ec ff9b=30ed ff9c=30ef ff9d=30f3 ff9e=3099 ff9f=309a ffa0~ ffa1=1100 ffa2=1101
ffa3=11aa ffa4=1102 ffa5=11ac ffa6=11ad ffa7=1103 ffa8=1104 ffa9=1105 ffaa=11b0 ffab=11b1
ffac=11b2 ffad=11b3 ffae=11b4 ffaf=11b5 ffb0=111a ffb1=1106 ffb2=1107 ffb3=1108 ffb4=1121
ffb5=1109 ffb6=110a ffb7=110b ffb8=110c ffb9=110d ffba=110e ffbb=110f ffbc=1110 ffbd=1111
ffbe=1112 ffbf! ffc2=1161 ffc3=1162 ffc4=1163 ffc5=1164 ffc6=1165 ffc7=1166 ffc8! ffca=1167
ffcb=1168 ffcc=1169 ffcd=116a ffce=116b ffcf=116c ffd0! ffd2=116d ffd3=116e ffd4=116f ffd5=1170
ffd6=1171 ffd7=1172 ffd8! ffda=1173 ffdb=1174 ffdc=1175 ffdd! ffe0=a2 ffe1=a3 ffe2=ac ffe3=20+304
ffe4=a6 ffe5=a5 ffe6=20a9 ffe7! ffe8=2502 ffe9=2190 ffea=2191 ffeb=2192 ffec=2193 ffed=25a0
ffee=25cb ffef! 10000. 1000c! 1000d. 10027! 10028. 1003b! 1003c. 1003e! 1003f. 1004e! 10050.
1005e! 10080. 100fb! 10100. 10103! 10107. 10134! 10137. 1018f! 10190. 1019d! 101a0. 101a1! 101d0.
101fe! 10280. 1029d! 102a0. 102d1! 102e0. 102fc! 10300. 10324! 1032d. 1034b! 10350. 1037b! 10380.
1039e! 1039f. 103c4! 103c8. 103d6! 10400=10428 10401=10429 10402=1042a 10403=1042b 10404=1042c
10405=1042d 10406=1042e 10407=1042f 10408=10430 10409=10431 1040a=10432 1040b=10433 1040c=10434
1040d=10435 1040e=10436 1040f=10437 10410=10438 10411=10439 10412=1043a 10413=1043b 10414=1043c
10415=1043d 10416=1043e 10417=1043f 10418=10440 10419=10441 1041a=10442 1041b=10443 1041c=10444
1041d=10445 1041e=10446 1041f=10447 10420=10448 10421=10449 10422=1044a 10423=1044b 10424=1044c
10425=1044d 10426=1044e 10427=1044f 10428. 1049e! 104a0. 104aa! 104b0=104d8 104b1=104d9
104b2=104da 104b3=104db 104b4=104dc 104b5=104dd 104b6=104de 104b7=104df 104b8=104e0 104b9=104e1
104ba=104e2 104bb=104e3 104bc=104e4 104bd=104e5 104be=104e6 104bf=104e7 104c0=104e8 104c1=104e9
104c2=104ea 104c3=104eb 104c4=104ec 104c5=104ed 104c6=104ee 104c7=104ef 104c8=104f0 104c9=104f1
104ca=104f2 104cb=104f3 104cc=104f4 104cd=104f5 104ce=104f6 104cf=104f7 104d0=104f8 104d1=104f9
104d2=104fa 104d3=104fb 104d4! 104d8. 104fc! 10500. 10528! 10530. 10564! 1056f. 10570=10597
10571=10598 10572=10599 10573=1059a 10574=1059b 10575=1059c 10576=1059d 10577=1059e 10578=1059f
10579=105a0 1057a=105a1 1057b! 1057c=105a3 1057d=105a4 1057e=105a5 1057f=105a6 10580=105a7
10581=105a8 10582=105a9 10583=105aa 10584=105ab 10585=105ac 10586=105ad 10587=105ae 10588=105af
10589=105b0 1058a=105b1 1058b! 1058c=105b3 1058d=105b4 1058e=105b5 1058f=105b6 10590=105b7
10591=105b8 10592=105b9 10593! 10594=105bb 10595=105bc 10596! 10597. 105a2! 105a3. 105b2! 105b3.
105ba! 105bb. 105bd! 105c0. 105f4! 10600. 10737! 10740. 10756! 10760. 10768! 10780. 10781=2d0
10782=2d1 10783=e6 10784=299 10785=253 10786! 10787=2a3 10788=ab66 10789=2a5 1078a=2a4 1078b=256
1078c=257 1078d=1d91 1078e=258 1078f=25e 10790=2a9 10791=264 10792=262 10793=260 10794=29b
10795=127 10796=29c 10797=267 10798=284 10799=2aa 1079a=2ab 1079b=26c 1079c=1df04 1079d=a78e
1079e=26e 1079f=1df05 107a0=28e 107a1=1df06 107a2=f8 107a3=276 107a4=277 107a5=71 107a6=27a
107a7=1df08 107a8=27d 107a9=27e 107aa=280 107ab=2a8 107ac=2a6 107ad=ab67 107ae=2a7 107af=288
107b0=2c71 107b1! 107b2=28f 107b3=2a1 107b4=2a2 107b5=298 107b6=1c0 107b7=1c1 107b8=1c2
107b9=1df0a 107ba=1df1e 107bb! 10800. 10806! 10808. 10809! 1080a. 10836! 10837. 10839! 1083c.
1083d! 1083f. 10856! 10857. 1089f! 108a7. 108b0! 108e0. 108f3! 108f4. 108f6! 108fb. 1091c! 1091f.
1093a! 1093f. 1095a! 10980. 109b8! 109bc. 109d0! 109d2. 10a04! 10a05. 10a07! 10a0c. 10a14! 10a15.
10a18! 10a19. 10a36! 10a38. 10a3b! 10a3f. 10a49! 10a50. 10a59! 10a60. 10aa0! 10ac0. 10ae7! 10aeb.
10af7! 10b00. 10b36! 10b39. 10b56! 10b58. 10b73! 10b78. 10b92! 10b99. 10b9d! 10ba9. 10bb0! 10c00.
10c49! 10c80=10cc0 10c81=10cc1 10c82=10cc2 10c83=10cc3 10c84=10cc4 10c85=10cc5 10c86=10cc6
10c87=10cc7 10c88=10cc8 10c89=10cc9 10c8a=10cca 10c8b=10ccb 10c8c=10ccc 10c8d=10ccd 10c8e=10cce
10c8f=10ccf 10c90=10cd0 10c91=10cd1 10c92=10cd2 10c93=10cd3 10c94=10cd4 10c95=10cd5 10c96=10cd6
10c97=10cd7 10c98=10cd8 10c99=10cd9 10c9a=10cda 10c9b=10cdb 10c9c=10cdc 10c9d=10cdd 10c9e=10cde
10c9f=10cdf 10ca0=10ce0 10ca1=10ce1 10ca2=10ce2 10ca3=10ce3 10ca4=10ce4 10ca5=10ce5 10ca6=10ce6
10ca7=10ce7 10ca8=10ce8 10ca9=10ce9 10caa=10cea 10cab=10ceb 10cac=10cec 10cad=10ced 10cae=10cee
10caf=10cef 10cb0=10cf0 10cb1=10cf1 10cb2=10cf2 10cb3! 10cc0. 10cf3! 10cfa. 10d28! 10d30. 10d3a!
10d40. 10d50=10d70 10d51=10d71 10d52=10d72 10d53=10d73 10d54=10d74 10d55=10d75 10d56=10d76
10d57=10d77 10d58=10d78 10d59=10d79 10d5a=10d7a 10d5b=10d7b 10d5c=10d7c 10d5d=10d7d 10d5e=10d7e
10d5f=10d7f 10d60=10d80 10d61=10d81 10d62=10d82 10d63=10d83 10d64=10d84 10d65=10d85 10d66! 10d69.
10d86! 10d8e. 10d90! 10e60. 10e7f! 10e80. 10eaa! 10eab. 10eae! 10eb0. 10eb2! 10ec2. 10ec8! 10ed0.
10ed9! 10efa. 10f28! 10f30. 10f5a! 10f70. 10f8a! 10fb0. 10fcc! 10fe0. 10ff7! 11000. 1104e! 11052.
11076! 1107f. 110bd! 110be. 110c3! 110d0. 110e9! 110f0. 110fa! 11100. 11135! 11136. 11148! 11150.
11177! 11180. 111e0! 111e1. 111f5! 11200. 11212! 11213. 11242! 11280. 11287! 11288. 11289! 1128a.
1128e! 1128f. 1129e! 1129f. 112aa! 112b0. 112eb! 112f0. 112fa! 11300. 11304! 11305. 1130d! 1130f.
11311! 11313. 11329! 1132a. 11331! 11332. 11334! 11335. 1133a! 1133b. 11345! 11347. 11349! 1134b.
1134e! 11350. 11351! 11357. 11358! 1135d. 11364! 11366. 1136d! 11370. 11375! 11380. 1138a! 1138b.
1138c! 1138e. 1138f! 11390. 113b6! 113b7. 113c1! 113c2. 113c3! 113c5. 113c6! 113c7. 113cb! 113cc.
113d6! 113d7. 113d9! 113e1. 113e3! 11400. 1145c! 1145d. 11462! 11480. 114c8! 114d0. 114da! 11580.
115b6! 115b8. 115de! 11600. 11645! 11650. 1165a! 11660. 1166d! 11680. 116ba! 116c0. 116ca! 116d0.
116e4! 11700. 1171b! 1171d. 1172c! 11730. 11747! 11800. 1183c! 118a0=118c0 118a1=118c1
118a2=118c2 118a3=118c3 118a4=118c4 118a5=118c5 118a6=118c6 118a7=118c7 118a8=118c8 118a9=118c9
118aa=118ca 118ab=118cb 118ac=118cc 118ad=118cd 118ae=118ce 118af=118cf 118b0=118d0 118b1=118d1
118b2=118d2 118b3=118d3 118b4=118d4 118b5=118d5 118b6=118d6 118b7=118d7 118b8=118d8 118b9=118d9
118ba=118da 118bb=118db 118bc=118dc 118bd=118dd 118be=118de 118bf=118df 118c0. 118f3! 118ff.
11907! 11909. 1190a! 1190c. 11914! 11915. 11917! 11918. 11936! 11937. 11939! 1193b. 11947! 11950.
1195a! 119a0. 119a8! 119aa. 119d8! 119da. 119e5! 11a00. 11a48! 11a50. 11aa3! 11ab0. 11af9! 11b00.
11b0a! 11b60. 11b68! 11bc0. 11be2! 11bf0. 11bfa! 11c00. 11c09! 11c0a. 11c37! 11c38. 11c46! 11c50.
11c6d! 11c70. 11c90! 11c92. 11ca8! 11ca9. 11cb7! 11d00. 11d07! 11d08. 11d0a! 11d0b. 11d37! 11d3a.
11d3b! 11d3c. 11d3e! 11d3f. 11d48! 11d50. 11d5a! 11d60. 11d66! 11d67. 11d69! 11d6a. 11d8f! 11d90.
11d92! 11d93. 11d99! 11da0. 11daa! 11db0. 11ddc! 11de0. 11dea! 11ee0. 11ef9! 11f00. 11f11! 11f12.
11f3b! 11f3e. 11f5b! 11fb0. 11fb1! 11fc0. 11ff2! 11fff. 1239a! 12400. 1246f! 12470. 12475! 12480.
12544! 12f90. 12ff3! 13000. 13430! 13440. 13456! 13460. 143fb! 14400. 14647! 16100. 1613a! 16800.
16a39! 16a40. 16a5f! 16a60. 16a6a! 16a6e. 16abf! 16ac0. 16aca! 16ad0. 16aee! 16af0. 16af6! 16b00.
16b46! 16b50. 16b5a! 16b5b. 16b62! 16b63. 16b78! 16b7d. 16b90! 16d40. 16d7a! 16e40=16e60
16e41=16e61 16e42=16e62 16e43=16e63 16e44=16e64 16e45=16e65 16e46=16e66 16e47=16e67 16e48=16e68
16e49=16e69 16e4a=16e6a 16e4b=16e6b 16e4c=16e6c 16e4d=16e6d 16e4e=16e6e 16e4f=16e6f 16e50=16e70
16e51=16e71 16e52=16e72 16e53=16e73 16e54=16e74 16e55=16e75 16e56=16e76 16e57=16e77 16e58=16e78
16e59=16e79 16e5a=16e7a 16e5b=16e7b 16e5c=16e7c 16e5d=16e7d 16e5e=16e7e 16e5f=16e7f 16e60. 16e9b!
16ea0=16ebb 16ea1=16ebc 16ea2=16ebd 16ea3=16ebe 16ea4=16ebf 16ea5=16ec0 16ea6=16ec1 16ea7=16ec2
16ea8=16ec3 16ea9=16ec4 16eaa=16ec5 16eab=16ec6 16eac=16ec7 16ead=16ec8 16eae=16ec9 16eaf=16eca
16eb0=16ecb 16eb1=16ecc 16eb2=16ecd 16eb3=16ece 16eb4=16ecf 16eb5=16ed0 16eb6=16ed1 16eb7=16ed2
16eb8=16ed3 16eb9! 16ebb. 16ed4! 16f00. 16f4b! 16f4f. 16f88! 16f8f. 16fa0! 16fe0. 16fe5! 16ff0.
16ff7! 17000. 18cd6! 18cff. 18d1f! 18d80. 18df3! 1aff0. 1aff4! 1aff5. 1affc! 1affd. 1afff! 1b000.
1b123! 1b132. 1b133! 1b150. 1b153! 1b155. 1b156! 1b164. 1b168! 1b170. 1b2fc! 1bc00. 1bc6b! 1bc70.
1bc7d! 1bc80. 1bc89! 1bc90. 1bc9a! 1bc9c. 1bca0~ 1bca4! 1cc00. 1ccd6=61 1ccd7=62 1ccd8=63
1ccd9=64 1ccda=65 1ccdb=66 1ccdc=67 1ccdd=68 1ccde=69 1ccdf=6a 1cce0=6b 1cce1=6c 1cce2=6d
1cce3=6e 1cce4=6f 1cce5=70 1cce6=71 1cce7=72 1cce8=73 1cce9=74 1ccea=75 1cceb=76 1ccec=77
1cced=78 1ccee=79 1ccef=7a 1ccf0=30 1ccf1=31 1ccf2=32 1ccf3=33 1ccf4=34 1ccf5=35 1ccf6=36
1ccf7=37 1ccf8=38 1ccf9=39 1ccfa. 1ccfd! 1cd00. 1ceb4! 1ceba. 1ced1! 1cee0. 1cef1! 1cf00. 1cf2e!
1cf30. 1cf47! 1cf50. 1cfc4! 1d000. 1d0f6! 1d100. 1d127! 1d129. 1d15e=1d157+1d165
1d15f=1d158+1d165 1d160=1d158+1d165+1d16e 1d161=1d158+1d165+1d16f 1d162=1d158+1d165+1d170
1d163=1d158+1d165+1d171 1d164=1d158+1d165+1d172 1d165. 1d173~ 1d17b. 1d1bb=1d1b9+1d165
1d1bc=1d1ba+1d165 1d1bd=1d1b9+1d165+1d16e 1d1be=1d1ba+1d165+1d16e 1d1bf=1d1b9+1d165+1d16f
1d1c0=1d1ba+1d165+1d16f 1d1c1. 1d1eb! 1d200. 1d246! 1d2c0. 1d2d4! 1d2e0. 1d2f4! 1d300. 1d357!
1d360. 1d379! 1d400=61 1d401=62 1d402=63 1d403=64 1d404=65 1d405=66 1d406=67 1d407=68 1d408=69
1d409=6a 1d40a=6b 1d40b=6c 1d40c=6d 1d40d=6e 1d40e=6f 1d40f=70 1d410=71 1d411=72 1d412=73
1d413=74 1d414=75 1d415=76 1d416=77 1d417=78 1d418=79 1d419=7a 1d41a=61 1d41b=62 1d41c=63
1d41d=64 1d41e=65 1d41f=66 1d420=67 1d421=68 1d422=69 1d423=6a 1d424=6b 1d425=6c 1d426=6d
1d427=6e 1d428=6f 1d429=70 1d42a=71 1d42b=72 1d42c=73 1d42d=74 1d42e=75 1d42f=76 1d430=77
1d431=78 1d432=79 1d433=7a 1d434=61 1d435=62 1d436=63 1d437=64 1d438=65 1d439=66 1d43a=67
1d43b=68 1d43c=69 1d43d=6a 1d43e=6b 1d43f=6c 1d440=6d 1d441=6e 1d442=6f 1d443=70 1d444=71
1d445=72 1d446=73 1d447=74 1d448=75 1d449=76 1d44a=77 1d44b=78 1d44c=79 1d44d=7a 1d44e=61
1d44f=62 1d450=63 1d451=64 1d452=65 1d453=66 1d454=67 1d455! 1d456=69 1d457=6a 1d458=6b 1d459=6c
1d45a=6d 1d45b=6e 1d45c=6f 1d45d=70 1d45e=71 1d45f=72 1d460=73 1d461=74 1d462=75 1d463=76
1d464=77 1d465=78 1d466=79 1d467=7a 1d468=61 1d469=62 1d46a=63 1d46b=64 1d46c=65 1d46d=66
1d46e=67 1d46f=68 1d470=69 1d471=6a 1d472=6b 1d473=6c 1d474=6d 1d475=6e 1d476=6f 1d477=70
1d478=71 1d479=72 1d47a=73 1d47b=74 1d47c=75 1d47d=76 1d47e=77 1d47f=78 1d480=79 1d481=7a
1d482=61 1d483=62 1d484=63 1d485=64 1d486=65 1d487=66 1d488=67 1d489=68 1d48a=69 1d48b=6a
1d48c=6b 1d48d=6c 1d48e=6d 1d48f=6e 1d490=6f 1d491=70 1d492=71 1d493=72 1d494=73 1d495=74
1d496=75 1d497=76 1d498=77 1d499=78 1d49a=79 1d49b=7a 1d49c=61 1d49d! 1d49e=63 1d49f=64 1d4a0!
1d4a2=67 1d4a3! 1d4a5=6a 1d4a6=6b 1d4a7! 1d4a9=6e 1d4aa=6f 1d4ab=70 1d4ac=71 1d4ad! 1d4ae=73
1d4af=74 1d4b0=75 1d4b1=76 1d4b2=77 1d4b3=78 1d4b4=79 1d4b5=7a 1d4b6=61 1d4b7=62 1d4b8=63
1d4b9=64 1d4ba! 1d4bb=66 1d4bc! 1d4bd=68 1d4be=69 1d4bf=6a 1d4c0=6b 1d4c1=6c 1d4c2=6d 1d4c3=6e
1d4c4! 1d4c5=70 1d4c6=71 1d4c7=72 1d4c8=73 1d4c9=74 1d4ca=75 1d4cb=76 1d4cc=77 1d4cd=78 1d4ce=79
1d4cf=7a 1d4d0=61 1d4d1=62 1d4d2=63 1d4d3=64 1d4d4=65 1d4d5=66 1d4d6=67 1d4d7=68 1d4d8=69
1d4d9=6a 1d4da=6b 1d4db=6c 1d4dc=6d 1d4dd=6e 1d4de=6f 1d4df=70 1d4e0=71 1d4e1=72 1d4e2=73
1d4e3=74 1d4e4=75 1d4e5=76 1d4e6=77 1d4e7=78 1d4e8=79 1d4e9=7a 1d4ea=61 1d4eb=62 1d4ec=63
1d4ed=64 1d4ee=65 1d4ef=66 1d4f0=67 1d4f1=68 1d4f2=69 1d4f3=6a 1d4f4=6b 1d4f5=6c 1d4f6=6d
1d4f7=6e 1d4f8=6f 1d4f9=70 1d4fa=71 1d4fb=72 1d4fc=73 1d4fd=74 1d4fe=75 1d4ff=76 1d500=77
1d501=78 1d502=79 1d503=7a 1d504=61 1d505=62 1d506! 1d507=64 1d508=65 1d509=66 1d50a=67 1d50b!
1d50d=6a 1d50e=6b 1d50f=6c 1d510=6d 1d511=6e 1d512=6f 1d513=70 1d514=71 1d515! 1d516=73 1d517=74
1d518=75 1d519=76 1d51a=77 1d51b=78 1d51c=79 1d51d! 1d51e=61 1d51f=62 1d520=63 1d521=64 1d522=65
1d523=66 1d524=67 1d525=68 1d526=69 1d527=6a 1d528=6b 1d529=6c 1d52a=6d 1d52b=6e 1d52c=6f
1d52d=70 1d52e=71 1d52f=72 1d530=73 1d531=74 1d532=75 1d533=76 1d534=77 1d535=78 1d536=79
1d537=7a 1d538=61 1d539=62 1d53a! 1d53b=64 1d53c=65 1d53d=66 1d53e=67 1d53f! 1d540=69 1d541=6a
1d542=6b 1d543=6c 1d544=6d 1d545! 1d546=6f 1d547! 1d54a=73 1d54b=74 1d54c=75 1d54d=76 1d54e=77
1d54f=78 1d550=79 1d551! 1d552=61 1d553=62 1d554=63 1d555=64 1d556=65 1d557=66 1d558=67 1d559=68
1d55a=69 1d55b=6a 1d55c=6b 1d55d=6c 1d55e=6d 1d55f=6e 1d560=6f 1d561=70 1d562=71 1d563=72
1d564=73 1d565=74 1d566=75 1d567=76 1d568=77 1d569=78 1d56a=79 1d56b=7a 1d56c=61 1d56d=62
1d56e=63 1d56f=64 1d570=65 1d571=66 1d572=67 1d573=68 1d574=69 1d575=6a 1d576=6b 1d577=6c
1d578=6d 1d579=6e 1d57a=6f 1d57b=70 1d57c=71 1d57d=72 1d57e=73 1d57f=74 1d580=75 1d581=76
1d582=77 1d583=78 1d584=79 1d585=7a 1d586=61 1d587=62 1d588=63 1d589=64 1d58a=65 1d58b=66
1d58c=67 1d58d=68 1d58e=69 1d58f=6a 1d590=6b 1d591=6c 1d592=6d 1d593=6e 1d594=6f 1d595=70
1d596=71 1d597=72 1d598=73 1d599=74 1d59a=75 1d59b=76 1d59c=77 1d59d=78 1d59e=79 1d59f=7a
1d5a0=61 1d5a1=62 1d5a2=63 1d5a3=64 1d5a4=65 1d5a5=66 1d5a6=67 1d5a7=68 1d5a8=69 1d5a9=6a
1d5aa=6b 1d5ab=6c 1d5ac=6d 1d5ad=6e 1d5ae=6f 1d5af=70 1d5b0=71 1d5b1=72 1d5b2=73 1d5b3=74
1d5b4=75 1d5b5=76 1d5b6=77 1d5b7=78 1d5b8=79 1d5b9=7a 1d5ba=61 1d5bb=62 1d5bc=63 1d5bd=64
1d5be=65 1d5bf=66 1d5c0=67 1d5c1=68 1d5c2=69 1d5c3=6a 1d5c4=6b 1d5c5=6c 1d5c6=6d 1d5c7=6e
1d5c8=6f 1d5c9=70 1d5ca=71 1d5cb=72 1d5cc=73 1d5cd=74 1d5ce=75 1d5cf=76 1d5d0=77 1d5d1=78
1d5d2=79 1d5d3=7a 1d5d4=61 1d5d5=62 1d5d6=63 1d5d7=64 1d5d8=65 1d5d9=66 1d5da=67 1d5db=68
1d5dc=69 1d5dd=6a 1d5de=6b 1d5df=6c 1d5e0=6d 1d5e1=6e 1d5e2=6f 1d5e3=70 1d5e4=71 1d5e5=72
1d5e6=73 1d5e7=74 1d5e8=75 1d5e9=76 1d5ea=77 1d5eb=78 1d5ec=79 1d5ed=7a 1d5ee=61 1d5ef=62
1d5f0=63 1d5f1=64 1d5f2=65 1d5f3=66 1d5f4=67 1d5f5=68 1d5f6=69 1d5f7=6a 1d5f8=6b 1d5f9=6c
1d5fa=6d 1d5fb=6e 1d5fc=6f 1d5fd=70 1d5fe=71 1d5ff=72 1d600=73 1d601=74 1d602=75 1d603=76
1d604=77 1d605=78 1d606=79 1d607=7a 1d608=61 1d609=62 1d60a=63 1d60b=64 1d60c=65 1d60d=66
1d60e=67 1d60f=68 1d610=69 1d611=6a 1d612=6b 1d613=6c 1d614=6d 1d615=6e 1d616=6f 1d617=70
1d618=71 1d619=72 1d61a=73 1d61b=74 1d61c=75 1d61d=76 1d61e=77 1d61f=78 1d620=79 1d621=7a
1d622=61 1d623=62 1d624=63 1d625=64 1d626=65 1d627=66 1d628=67 1d629=68 1d62a=69 1d62b=6a
1d62c=6b 1d62d=6c 1d62e=6d 1d62f=6e 1d630=6f 1d631=70 1d632=71 1d633=72 1d634=73 1d635=74
1d636=75 1d637=76 1d638=77 1d639=78 1d63a=79 1d63b=7a 1d63c=61 1d63d=62 1d63e=63 1d63f=64
1d640=65 1d641=66 1d642=67 1d643=68 1d644=69 1d645=6a 1d646=6b 1d647=6c 1d648=6d 1d649=6e
1d64a=6f 1d64b=70 1d64c=71 1d64d=72 1d64e=73 1d64f=74 1d650=75 1d651=76 1d652=77 1d653=78
1d654=79 1d655=7a 1d656=61 1d657=62 1d658=63 1d659=64 1d65a=65 1d65b=66 1d65c=67 1d65d=68
1d65e=69 1d65f=6a 1d660=6b 1d661=6c 1d662=6d 1d663=6e 1d664=6f 1d665=70 1d666=71 1d667=72
1d668=73 1d669=74 1d66a=75 1d66b=76 1d66c=77 1d66d=78 1d66e=79 1d66f=7a 1d670=61 1d671=62
1d672=63 1d673=64 1d674=65 1d675=66 1d676=67 1d677=68 1d678=69 1d679=6a 1d67a=6b 1d67b=6c
1d67c=6d 1d67d=6e 1d67e=6f 1d67f=70 1d680=71 1d681=72 1d682=73 1d683=74 1d684=75 1d685=76
1d686=77 1d687=78 1d688=79 1d689=7a 1d68a=61 1d68b=62 1d68c=63 1d68d=64 1d68e=65 1d68f=66
1d690=67 1d691=68 1d692=69 1d693=6a 1d694=6b 1d695=6c 1d696=6d 1d697=6e 1d698=6f 1d699=70
1d69a=71 1d69b=72 1d69c=73 1d69d=74 1d69e=75 1d69f=76 1d6a0=77 1d6a1=78 1d6a2=79 1d6a3=7a
1d6a4=131 1d6a5=237 1d6a6! 1d6a8=3b1 1d6a9=3b2 1d6aa=3b3 1d6ab=3b4 1d6ac=3b5 1d6ad=3b6 1d6ae=3b7
1d6af=3b8 1d6b0=3b9 1d6b1=3ba 1d6b2=3bb 1d6b3=3bc 1d6b4=3bd 1d6b5=3be 1d6b6=3bf 1d6b7=3c0
1d6b8=3c1 1d6b9=3b8 1d6ba=3c3 1d6bb=3c4 1d6bc=3c5 1d6bd=3c6 1d6be=3c7 1d6bf=3c8 1d6c0=3c9
1d6c1=2207 1d6c2=3b1 1d6c3=3b2 1d6c4=3b3 1d6c5=3b4 1d6c6=3b5 1d6c7=3b6 1d6c8=3b7 1d6c9=3b8
1d6ca=3b9 1d6cb=3ba 1d6cc=3bb 1d6cd=3bc 1d6ce=3bd 1d6cf=3be 1d6d0=3bf 1d6d1=3c0 1d6d2=3c1
1d6d3=3c3 1d6d5=3c4 1d6d6=3c5 1d6d7=3c6 1d6d8=3c7 1d6d9=3c8 1d6da=3c9 1d6db=2202 1d6dc=3b5
1d6dd=3b8 1d6de=3ba 1d6df=3c6 1d6e0=3c1 1d6e1=3c0 1d6e2=3b1 1d6e3=3b2 1d6e4=3b3 1d6e5=3b4
1d6e6=3b5 1d6e7=3b6 1d6e8=3b7 1d6e9=3b8 1d6ea=3b9 1d6eb=3ba 1d6ec=3bb 1d6ed=3bc 1d6ee=3bd
1d6ef=3be 1d6f0=3bf 1d6f1=3c0 1d6f2=3c1 1d6f3=3b8 1d6f4=3c3 1d6f5=3c4 1d6f6=3c5 1d6f7=3c6
1d6f8=3c7 1d6f9=3c8 1d6fa=3c9 1d6fb=2207 1d6fc=3b1 1d6fd=3b2 1d6fe=3b3 1d6ff=3b4 1d700=3b5
1d701=3b6 1d702=3b7 1d703=3b8 1d704=3b9 1d705=3ba 1d706=3bb 1d707=3bc 1d708=3bd 1d709=3be
1d70a=3bf 1d70b=3c0 1d70c=3c1 1d70d=3c3 1d70f=3c4 1d710=3c5 1d711=3c6 1d712=3c7 1d713=3c8
1d714=3c9 1d715=2202 1d716=3b5 1d717=3b8 1d718=3ba 1d719=3c6 1d71a=3c1 1d71b=3c0 1d71c=3b1
1d71d=3b2 1d71e=3b3 1d71f=3b4 1d720=3b5 1d721=3b6 1d722=3b7 1d723=3b8 1d724=3b9 1d725=3ba
1d726=3bb 1d727=3bc 1d728=3bd 1d729=3be 1d72a=3bf 1d72b=3c0 1d72c=3c1 1d72d=3b8 1d72e=3c3
1d72f=3c4 1d730=3c5 1d731=3c6 1d732=3c7 1d733=3c8 1d734=3c9 1d735=2207 1d736=3b1 1d737=3b2
1d738=3b3 1d739=3b4 1d73a=3b5 1d73b=3b6 1d73c=3b7 1d73d=3b8 1d73e=3b9 1d73f=3ba 1d740=3bb
1d741=3bc 1d742=3bd 1d743=3be 1d744=3bf 1d745=3c0 1d746=3c1 1d747=3c3 1d749=3c4 1d74a=3c5
1d74b=3c6 1d74c=3c7 1d74d=3c8 1d74e=3c9 1d74f=2202 1d750=3b5 1d751=3b8 1d752=3ba 1d753=3c6
1d754=3c1 1d755=3c0 1d756=3b1 1d757=3b2 1d758=3b3 1d759=3b4 1d75a=3b5 1d75b=3b6 1d75c=3b7
1d75d=3b8 1d75e=3b9 1d75f=3ba 1d760=3bb 1d761=3bc 1d762=3bd 1d763=3be 1d764=3bf 1d765=3c0
1d766=3c1 1d767=3b8 1d768=3c3 1d769=3c4 1d76a=3c5 1d76b=3c6 1d76c=3c7 1d76d=3c8 1d76e=3c9
1d76f=2207 1d770=3b1 1d771=3b2 1d772=3b3 1d773=3b4 1d774=3b5 1d775=3b6 1d776=3b7 1d777=3b8
1d778=3b9 1d779=3ba 1d77a=3bb 1d77b=3bc 1d77c=3bd 1d77d=3be 1d77e=3bf 1d77f=3c0 1d780=3c1
1d781=3c3 1d783=3c4 1d784=3c5 1d785=3c6 1d786=3c7 1d787=3c8 1d788=3c9 1d789=2202 1d78a=3b5
1d78b=3b8 1d78c=3ba 1d78d=3c6 1d78e=3c1 1d78f=3c0 1d790=3b1 1d791=3b2 1d792=3b3 1d793=3b4
1d794=3b5 1d795=3b6 1d796=3b7 1d797=3b8 1d798=3b9 1d799=3ba 1d79a=3bb 1d79b=3bc 1d79c=3bd
1d79d=3be 1d79e=3bf 1d79f=3c0 1d7a0=3c1 1d7a1=3b8 1d7a2=3c3 1d7a3=3c4 1d7a4=3c5 1d7a5=3c6
1d7a6=3c7 1d7a7=3c8 1d7a8=3c9 1d7a9=2207 1d7aa=3b1 1d7ab=3b2 1d7ac=3b3 1d7ad=3b4 1d7ae=3b5
1d7af=3b6 1d7b0=3b7 1d7b1=3b8 1d7b2=3b9 1d7b3=3ba 1d7b4=3bb 1d7b5=3bc 1d7b6=3bd 1d7b7=3be
1d7b8=3bf 1d7b9=3c0 1d7ba=3c1 1d7bb=3c3 1d7bd=3c4 1d7be=3c5 1d7bf=3c6 1d7c0=3c7 1d7c1=3c8
1d7c2=3c9 1d7c3=2202 1d7c4=3b5 1d7c5=3b8 1d7c6=3ba 1d7c7=3c6 1d7c8=3c1 1d7c9=3c0 1d7ca=3dd 1d7cc!
1d7ce=30 1d7cf=31 1d7d0=32 1d7d1=33 1d7d2=34 1d7d3=35 1d7d4=36 1d7d5=37 1d7d6=38 1d7d7=39
1d7d8=30 1d7d9=31 1d7da=32 1d7db=33 1d7dc=34 1d7dd=35 1d7de=36 1d7df=37 1d7e0=38 1d7e1=39
1d7e2=30 1d7e3=31 1d7e4=32 1d7e5=33 1d7e6=34 1d7e7=35 1d7e8=36 1d7e9=37 1d7ea=38 1d7eb=39
1d7ec=30 1d7ed=31 1d7ee=32 1d7ef=33 1d7f0=34 1d7f1=35 1d7f2=36 1d7f3=37 1d7f4=38 1d7f5=39
1d7f6=30 1d7f7=31 1d7f8=32 1d7f9=33 1d7fa=34 1d7fb=35 1d7fc=36 1d7fd=37 1d7fe=38 1d7ff=39 1d800.
1da8c! 1da9b. 1daa0! 1daa1. 1dab0! 1df00. 1df1f! 1df25. 1df2b! 1e000. 1e007! 1e008. 1e019! 1e01b.
1e022! 1e023. 1e025! 1e026. 1e02b! 1e030=430 1e031=431 1e032=432 1e033=433 1e034=434 1e035=435
1e036=436 1e037=437 1e038=438 1e039=43a 1e03a=43b 1e03b=43c 1e03c=43e 1e03d=43f 1e03e=440
1e03f=441 1e040=442 1e041=443 1e042=444 1e043=445 1e044=446 1e045=447 1e046=448 1e047=44b
1e048=44d 1e049=44e 1e04a=a689 1e04b=4d9 1e04c=456 1e04d=458 1e04e=4e9 1e04f=4af 1e050=4cf
1e051=430 1e052=431 1e053=432 1e054=433 1e055=434 1e056=435 1e057=436 1e058=437 1e059=438
1e05a=43a 1e05b=43b 1e05c=43e 1e05d=43f 1e05e=441 1e05f=443 1e060=444 1e061=445 1e062=446
1e063=447 1e064=448 1e065=44a 1e066=44b 1e067=491 1e068=456 1e069=455 1e06a=45f 1e06b=4ab
1e06c=a651 1e06d=4b1 1e06e! 1e08f. 1e090! 1e100. 1e12d! 1e130. 1e13e! 1e140. 1e14a! 1e14e. 1e150!
1e290. 1e2af! 1e2c0. 1e2fa! 1e2ff. 1e300! 1e4d0. 1e4fa! 1e5d0. 1e5fb! 1e5ff. 1e600! 1e6c0. 1e6df!
1e6e0. 1e6f6! 1e6fe. 1e700! 1e7e0. 1e7e7! 1e7e8. 1e7ec! 1e7ed. 1e7ef! 1e7f0. 1e7ff! 1e800. 1e8c5!
1e8c7. 1e8d7! 1e900=1e922 1e901=1e923 1e902=1e924 1e903=1e925 1e904=1e926 1e905=1e927 1e906=1e928
1e907=1e929 1e908=1e92a 1e909=1e92b 1e90a=1e92c 1e90b=1e92d 1e90c=1e92e 1e90d=1e92f 1e90e=1e930
1e90f=1e931 1e910=1e932 1e911=1e933 1e912=1e934 1e913=1e935 1e914=1e936 1e915=1e937 1e916=1e938
1e917=1e939 1e918=1e93a 1e919=1e93b 1e91a=1e93c 1e91b=1e93d 1e91c=1e93e 1e91d=1e93f 1e91e=1e940
1e91f=1e941 1e920=1e942 1e921=1e943 1e922. 1e94c! 1e950. 1e95a! 1e95e. 1e960! 1ec71. 1ecb5!
1ed01. 1ed3e! 1ee00=627 1ee01=628 1ee02=62c 1ee03=62f 1ee04! 1ee05=648 1ee06=632 1ee07=62d
1ee08=637 1ee09=64a 1ee0a=643 1ee0b=644 1ee0c=645 1ee0d=646 1ee0e=633 1ee0f=639 1ee10=641
1ee11=635 1ee12=642 1ee13=631 1ee14=634 1ee15=62a 1ee16=62b 1ee17=62e 1ee18=630 1ee19=636
1ee1a=638 1ee1b=63a 1ee1c=66e 1ee1d=6ba 1ee1e=6a1 1ee1f=66f 1ee20! 1ee21=628 1ee22=62c 1ee23!
1ee24=647 1ee25! 1ee27=62d 1ee28! 1ee29=64a 1ee2a=643 1ee2b=644 1ee2c=645 1ee2d=646 1ee2e=633
1ee2f=639 1ee30=641 1ee31=635 1ee32=642 1ee33! 1ee34=634 1ee35=62a 1ee36=62b 1ee37=62e 1ee38!
1ee39=636 1ee3a! 1ee3b=63a 1ee3c! 1ee42=62c 1ee43! 1ee47=62d 1ee48! 1ee49=64a 1ee4a! 1ee4b=644
1ee4c! 1ee4d=646 1ee4e=633 1ee4f=639 1ee50! 1ee51=635 1ee52=642 1ee53! 1ee54=634 1ee55! 1ee57=62e
1ee58! 1ee59=636 1ee5a! 1ee5b=63a 1ee5c! 1ee5d=6ba 1ee5e! 1ee5f=66f 1ee60! 1ee61=628 1ee62=62c
1ee63! 1ee64=647 1ee65! 1ee67=62d 1ee68=637 1ee69=64a 1ee6a=643 1ee6b! 1ee6c=645 1ee6d=646
1ee6e=633 1ee6f=639 1ee70=641 1ee71=635 1ee72=642 1ee73! 1ee74=634 1ee75=62a 1ee76=62b 1ee77=62e
1ee78! 1ee79=636 1ee7a=638 1ee7b=63a 1ee7c=66e 1ee7d! 1ee7e=6a1 1ee7f! 1ee80=627 1ee81=628
1ee82=62c 1ee83=62f 1ee84=647 1ee85=648 1ee86=632 1ee87=62d 1ee88=637 1ee89=64a 1ee8a! 1ee8b=644
1ee8c=645 1ee8d=646 1ee8e=633 1ee8f=639 1ee90=641 1ee91=635 1ee92=642 1ee93=631 1ee94=634
1ee95=62a 1ee96=62b 1ee97=62e 1ee98=630 1ee99=636 1ee9a=638 1ee9b=63a 1ee9c! 1eea1=628 1eea2=62c
1eea3=62f 1eea4! 1eea5=648 1eea6=632 1eea7=62d 1eea8=637 1eea9=64a 1eeaa! 1eeab=644 1eeac=645
1eead=646 1eeae=633 1eeaf=639 1eeb0=641 1eeb1=635 1eeb2=642 1eeb3=631 1eeb4=634 1eeb5=62a
1eeb6=62b 1eeb7=62e 1eeb8=630 1eeb9=636 1eeba=638 1eebb=63a 1eebc! 1eef0. 1eef2! 1f000. 1f02c!
1f030. 1f094! 1f0a0. 1f0af! 1f0b1. 1f0c0! 1f0c1. 1f0d0! 1f0d1. 1f0f6! 1f101=30+2c 1f102=31+2c
1f103=32+2c 1f104=33+2c 1f105=34+2c 1f106=35+2c 1f107=36+2c 1f108=37+2c 1f109=38+2c 1f10a=39+2c
1f10b. 1f110=28+61+29 1f111=28+62+29 1f112=28+63+29 1f113=28+64+29 1f114=28+65+29 1f115=28+66+29
1f116=28+67+29 1f117=28+68+29 1f118=28+69+29 1f119=28+6a+29 1f11a=28+6b+29 1f11b=28+6c+29
1f11c=28+6d+29 1f11d=28+6e+29 1f11e=28+6f+29 1f11f=28+70+29 1f120=28+71+29 1f121=28+72+29
1f122=28+73+29 1f123=28+74+29 1f124=28+75+29 1f125=28+76+29 1f126=28+77+29 1f127=28+78+29
1f128=28+79+29 1f129=28+7a+29 1f12a=3014+73+3015 1f12b=63 1f12c=72 1f12d=63+64 1f12e=77+7a 1f12f.
1f130=61 1f131=62 1f132=63 1f133=64 1f134=65 1f135=66 1f136=67 1f137=68 1f138=69 1f139=6a
1f13a=6b 1f13b=6c 1f13c=6d 1f13d=6e 1f13e=6f 1f13f=70 1f140=71 1f141=72 1f142=73 1f143=74
1f144=75 1f145=76 1f146=77 1f147=78 1f148=79 1f149=7a 1f14a=68+76 1f14b=6d+76 1f14c=73+64
1f14d=73+73 1f14e=70+70+76 1f14f=77+63 1f150. 1f16a=6d+63 1f16b=6d+64 1f16c=6d+72 1f16d.
1f190=64+6a 1f191. 1f1ae! 1f1e6. 1f200=307b+304b 1f201=30b3+30b3 1f202=30b5 1f203! 1f210=624b
1f211=5b57 1f212=53cc 1f213=30c7 1f214=4e8c 1f215=591a 1f216=89e3 1f217=5929 1f218=4ea4
1f219=6620 1f21a=7121 1f21b=6599 1f21c=524d 1f21d=5f8c 1f21e=518d 1f21f=65b0 1f220=521d
1f221=7d42 1f222=751f 1f223=8ca9 1f224=58f0 1f225=5439 1f226=6f14 1f227=6295 1f228=6355
1f229=4e00 1f22a=4e09 1f22b=904a 1f22c=5de6 1f22d=4e2d 1f22e=53f3 1f22f=6307 1f230=8d70
1f231=6253 1f232=7981 1f233=7a7a 1f234=5408 1f235=6e80 1f236=6709 1f237=6708 1f238=7533
1f239=5272 1f23a=55b6 1f23b=914d 1f23c! 1f240=3014+672c+3015 1f241=3014+4e09+3015
1f242=3014+4e8c+3015 1f243=3014+5b89+3015 1f244=3014+70b9+3015 1f245=3014+6253+3015
1f246=3014+76d7+3015 1f247=3014+52dd+3015 1f248=3014+6557+3015 1f249! 1f250=5f97 1f251=53ef
1f252! 1f260. 1f266! 1f300. 1f6d9! 1f6dc. 1f6ed! 1f6f0. 1f6fd! 1f700. 1f7da! 1f7e0. 1f7ec! 1f7f0.
1f7f1! 1f800. 1f80c! 1f810. 1f848! 1f850. 1f85a! 1f860. 1f888! 1f890. 1f8ae! 1f8b0. 1f8bc! 1f8c0.
1f8c2! 1f8d0. 1f8d9! 1f900. 1fa58! 1fa60. 1fa6e! 1fa70. 1fa7d! 1fa80. 1fa8b! 1fa8e. 1fac7! 1fac8.
1fac9! 1facd. 1fadd! 1fadf. 1faeb! 1faef. 1faf9! 1fb00. 1fb93! 1fb94. 1fbf0=30 1fbf1=31 1fbf2=32
1fbf3=33 1fbf4=34 1fbf5=35 1fbf6=36 1fbf7=37 1fbf8=38 1fbf9=39 1fbfa. 1fbfb! 20000. 2a6e0! 2a700.
2b81e! 2b820. 2ceae! 2ceb0. 2ebe1! 2ebf0. 2ee5e! 2f800=4e3d 2f801=4e38 2f802=4e41 2f803=20122
2f804=4f60 2f805=4fae 2f806=4fbb 2f807=5002 2f808=507a 2f809=5099 2f80a=50e7 2f80b=50cf
2f80c=349e 2f80d=2063a 2f80e=514d 2f80f=5154 2f810=5164 2f811=5177 2f812=2051c 2f813=34b9
2f814=5167 2f815=518d 2f816=2054b 2f817=5197 2f818=51a4 2f819=4ecc 2f81a=51ac 2f81b=51b5
2f81c=291df 2f81d=51f5 2f81e=5203 2f81f=34df 2f820=523b 2f821=5246 2f822=5272 2f823=5277
2f824=3515 2f825=52c7 2f826=52c9 2f827=52e4 2f828=52fa 2f829=5305 2f82a=5306 2f82b=5317
2f82c=5349 2f82d=5351 2f82e=535a 2f82f=5373 2f830=537d 2f831=537f 2f834=20a2c 2f835=7070
2f836=53ca 2f837=53df 2f838=20b63 2f839=53eb 2f83a=53f1 2f83b=5406 2f83c=549e 2f83d=5438
2f83e=5448 2f83f=5468 2f840=54a2 2f841=54f6 2f842=5510 2f843=5553 2f844=5563 2f845=5584
2f847=5599 2f848=55ab 2f849=55b3 2f84a=55c2 2f84b=5716 2f84c=5606 2f84d=5717 2f84e=5651
2f84f=5674 2f850=5207 2f851=58ee 2f852=57ce 2f853=57f4 2f854=580d 2f855=578b 2f856=5832
2f857=5831 2f858=58ac 2f859=214e4 2f85a=58f2 2f85b=58f7 2f85c=5906 2f85d=591a 2f85e=5922
2f85f=5962 2f860=216a8 2f861=216ea 2f862=59ec 2f863=5a1b 2f864=5a27 2f865=59d8 2f866=5a66
2f867=36ee 2f868=36fc 2f869=5b08 2f86a=5b3e 2f86c=219c8 2f86d=5bc3 2f86e=5bd8 2f86f=5be7
2f870=5bf3 2f871=21b18 2f872=5bff 2f873=5c06 2f874=5f53 2f875=5c22 2f876=3781 2f877=5c60
2f878=5c6e 2f879=5cc0 2f87a=5c8d 2f87b=21de4 2f87c=5d43 2f87d=21de6 2f87e=5d6e 2f87f=5d6b
2f880=5d7c 2f881=5de1 2f882=5de2 2f883=382f 2f884=5dfd 2f885=5e28 2f886=5e3d 2f887=5e69
2f888=3862 2f889=22183 2f88a=387c 2f88b=5eb0 2f88c=5eb3 2f88d=5eb6 2f88e=5eca 2f88f=2a392
2f890=5efe 2f891=22331 2f893=8201 2f894=5f22 2f896=38c7 2f897=232b8 2f898=261da 2f899=5f62
2f89a=5f6b 2f89b=38e3 2f89c=5f9a 2f89d=5fcd 2f89e=5fd7 2f89f=5ff9 2f8a0=6081 2f8a1=393a
2f8a2=391c 2f8a3=6094 2f8a4=226d4 2f8a5=60c7 2f8a6=6148 2f8a7=614c 2f8a8=614e 2f8a9=614c
2f8aa=617a 2f8ab=618e 2f8ac=61b2 2f8ad=61a4 2f8ae=61af 2f8af=61de 2f8b0=61f2 2f8b1=61f6
2f8b2=6210 2f8b3=621b 2f8b4=625d 2f8b5=62b1 2f8b6=62d4 2f8b7=6350 2f8b8=22b0c 2f8b9=633d
2f8ba=62fc 2f8bb=6368 2f8bc=6383 2f8bd=63e4 2f8be=22bf1 2f8bf=6422 2f8c0=63c5 2f8c1=63a9
2f8c2=3a2e 2f8c3=6469 2f8c4=647e 2f8c5=649d 2f8c6=6477 2f8c7=3a6c 2f8c8=654f 2f8c9=656c
2f8ca=2300a 2f8cb=65e3 2f8cc=66f8 2f8cd=6649 2f8ce=3b19 2f8cf=6691 2f8d0=3b08 2f8d1=3ae4
2f8d2=5192 2f8d3=5195 2f8d4=6700 2f8d5=669c 2f8d6=80ad 2f8d7=43d9 2f8d8=6717 2f8d9=671b
2f8da=6721 2f8db=675e 2f8dc=6753 2f8dd=233c3 2f8de=3b49 2f8df=67fa 2f8e0=6785 2f8e1=6852
2f8e2=6885 2f8e3=2346d 2f8e4=688e 2f8e5=681f 2f8e6=6914 2f8e7=3b9d 2f8e8=6942 2f8e9=69a3
2f8ea=69ea 2f8eb=6aa8 2f8ec=236a3 2f8ed=6adb 2f8ee=3c18 2f8ef=6b21 2f8f0=238a7 2f8f1=6b54
2f8f2=3c4e 2f8f3=6b72 2f8f4=6b9f 2f8f5=6bba 2f8f6=6bbb 2f8f7=23a8d 2f8f8=21d0b 2f8f9=23afa
2f8fa=6c4e 2f8fb=23cbc 2f8fc=6cbf 2f8fd=6ccd 2f8fe=6c67 2f8ff=6d16 2f900=6d3e 2f901=6d77
2f902=6d41 2f903=6d69 2f904=6d78 2f905=6d85 2f906=23d1e 2f907=6d34 2f908=6e2f 2f909=6e6e
2f90a=3d33 2f90b=6ecb 2f90c=6ec7 2f90d=23ed1 2f90e=6df9 2f90f=6f6e 2f910=23f5e 2f911=23f8e
2f912=6fc6 2f913=7039 2f914=701e 2f915=701b 2f916=3d96 2f917=704a 2f918=707d 2f919=7077
2f91a=70ad 2f91b=20525 2f91c=7145 2f91d=24263 2f91e=719c 2f91f=243ab 2f920=7228 2f921=7235
2f922=7250 2f923=24608 2f924=7280 2f925=7295 2f926=24735 2f927=24814 2f928=737a 2f929=738b
2f92a=3eac 2f92b=73a5 2f92c=3eb8 2f92e=7447 2f92f=745c 2f930=7471 2f931=7485 2f932=74ca
2f933=3f1b 2f934=7524 2f935=24c36 2f936=753e 2f937=24c92 2f938=7570 2f939=2219f 2f93a=7610
2f93b=24fa1 2f93c=24fb8 2f93d=25044 2f93e=3ffc 2f93f=4008 2f940=76f4 2f941=250f3 2f942=250f2
2f943=25119 2f944=25133 2f945=771e 2f946=771f 2f948=774a 2f949=4039 2f94a=778b 2f94b=4046
2f94c=4096 2f94d=2541d 2f94e=784e 2f94f=788c 2f950=78cc 2f951=40e3 2f952=25626 2f953=7956
2f954=2569a 2f955=256c5 2f956=798f 2f957=79eb 2f958=412f 2f959=7a40 2f95a=7a4a 2f95b=7a4f
2f95c=2597c 2f95d=25aa7 2f95f=7aee 2f960=4202 2f961=25bab 2f962=7bc6 2f963=7bc9 2f964=4227
2f965=25c80 2f966=7cd2 2f967=42a0 2f968=7ce8 2f969=7ce3 2f96a=7d00 2f96b=25f86 2f96c=7d63
2f96d=4301 2f96e=7dc7 2f96f=7e02 2f970=7e45 2f971=4334 2f972=26228 2f973=26247 2f974=4359
2f975=262d9 2f976=7f7a 2f977=2633e 2f978=7f95 2f979=7ffa 2f97a=8005 2f97b=264da 2f97c=26523
2f97d=8060 2f97e=265a8 2f97f=8070 2f980=2335f 2f981=43d5 2f982=80b2 2f983=8103 2f984=440b
2f985=813e 2f986=5ab5 2f987=267a7 2f988=267b5 2f989=23393 2f98a=2339c 2f98b=8201 2f98c=8204
2f98d=8f9e 2f98e=446b 2f98f=8291 2f990=828b 2f991=829d 2f992=52b3 2f993=82b1 2f994=82b3
2f995=82bd 2f996=82e6 2f997=26b3c 2f998=82e5 2f999=831d 2f99a=8363 2f99b=83ad 2f99c=8323
2f99d=83bd 2f99e=83e7 2f99f=8457 2f9a0=8353 2f9a1=83ca 2f9a2=83cc 2f9a3=83dc 2f9a4=26c36
2f9a5=26d6b 2f9a6=26cd5 2f9a7=452b 2f9a8=84f1 2f9a9=84f3 2f9aa=8516 2f9ab=273ca 2f9ac=8564
2f9ad=26f2c 2f9ae=455d 2f9af=4561 2f9b0=26fb1 2f9b1=270d2 2f9b2=456b 2f9b3=8650 2f9b4=865c
2f9b5=8667 2f9b6=8669 2f9b7=86a9 2f9b8=8688 2f9b9=870e 2f9ba=86e2 2f9bb=8779 2f9bc=8728
2f9bd=876b 2f9be=8786 2f9bf=45d7 2f9c0=87e1 2f9c1=8801 2f9c2=45f9 2f9c3=8860 2f9c4=8863
2f9c5=27667 2f9c6=88d7 2f9c7=88de 2f9c8=4635 2f9c9=88fa 2f9ca=34bb 2f9cb=278ae 2f9cc=27966
2f9cd=46be 2f9ce=46c7 2f9cf=8aa0 2f9d0=8aed 2f9d1=8b8a 2f9d2=8c55 2f9d3=27ca8 2f9d4=8cab
2f9d5=8cc1 2f9d6=8d1b 2f9d7=8d77 2f9d8=27f2f 2f9d9=20804 2f9da=8dcb 2f9db=8dbc 2f9dc=8df0
2f9dd=208de 2f9de=8ed4 2f9df=8f38 2f9e0=285d2 2f9e1=285ed 2f9e2=9094 2f9e3=90f1 2f9e4=9111
2f9e5=2872e 2f9e6=911b 2f9e7=9238 2f9e8=92d7 2f9e9=92d8 2f9ea=927c 2f9eb=93f9 2f9ec=9415
2f9ed=28bfa 2f9ee=958b 2f9ef=4995 2f9f0=95b7 2f9f1=28d77 2f9f2=49e6 2f9f3=96c3 2f9f4=5db2
2f9f5=9723 2f9f6=29145 2f9f7=2921a 2f9f8=4a6e 2f9f9=4a76 2f9fa=97e0 2f9fb=2940a 2f9fc=4ab2
2f9fd=29496 2f9fe=980b 2fa00=9829 2fa01=295b6 2fa02=98e2 2fa03=4b33 2fa04=9929 2fa05=99a7
2fa06=99c2 2fa07=99fe 2fa08=4bce 2fa09=29b30 2fa0a=9b12 2fa0b=9c40 2fa0c=9cfd 2fa0d=4cce
2fa0e=4ced 2fa0f=9d67 2fa10=2a0ce 2fa11=4cf8 2fa12=2a105 2fa13=2a20e 2fa14=2a291 2fa15=9ebb
2fa16=4d56 2fa17=9ef9 2fa18=9efe 2fa19=9f05 2fa1a=9f0f 2fa1b=9f16 2fa1c=9f3b 2fa1d=2a600 2fa1e!
30000. 3134b! 31350. 3347a! e0100~ e01f0!"

def readMapping (word : List Char) : Nat × Mapping :=
  let start := word.takeWhile fun c => (hexDigit? c).isSome
  let mapping := match word.dropWhile fun c => (hexDigit? c).isSome with
    | ['.'] => Mapping.valid
    | ['~'] => Mapping.ignored
    | '=' :: image => Mapping.mapped ((image.splitOn '+').map fun w => Char.ofNat (hexNat w))
    | _ => Mapping.disallowed
  (hexNat start, mapping)

def mappingTable : Array (Nat × Mapping) :=
  ((words mappingText.toList).map readMapping).toArray

def mapping (c : Char) : Mapping :=
  if c.toNat < 0x80 then
    if c.isUpper then .mapped [c.toLower] else .valid
  else
    match lastAtMost (·.1) mappingTable c.toNat with
    | some entry => entry.2
    | none => .disallowed

end IssuanceCheck.Idna
