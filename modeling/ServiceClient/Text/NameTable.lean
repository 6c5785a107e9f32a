import ServiceClient.Bytes
import ServiceClient.Text.Case

/-!
# Characters of names

The tables by which a name in any script is brought to one spelling. A letter is folded to lower
case, a variant of a character gives way to the character itself, and a mark is joined with the
letter before it. Some characters have no place in names, and names that are read from right to
left have no letters that are read from left to right.

* `foldRuns`, `foldTable`: the characters that others stand for.
* `compositionTable`: what a letter and a mark become together.
* `orderRanges`: the order of the marks of a letter.
* `forbiddenRanges`, `rightToLeftRanges`, `leftToRightRanges`: classes of characters.
-/

namespace ServiceClient.NameTable

/-- The runs of characters that stand for another one at a constant distance. -/
def foldRuns : List CaseRun :=
   [⟨65, 90, 1, 32⟩, ⟨913, 929, 1, 32⟩, ⟨931, 937, 1, 32⟩, ⟨984, 1006, 2, 1⟩, ⟨1040, 1070, 2, 32⟩,
    ⟨1120, 1140, 2, 1⟩, ⟨1162, 1214, 2, 1⟩, ⟨1219, 1229, 2, 1⟩, ⟨1274, 1326, 2, 1⟩,
    ⟨1329, 1366, 1, 48⟩, ⟨4256, 4293, 1, 7264⟩, ⟨5024, 5103, 1, 38864⟩, ⟨5104, 5109, 1, 8⟩,
    ⟨7312, 7354, 1, -3008⟩, ⟨8308, 8313, 1, -8256⟩, ⟨8320, 8329, 1, -8272⟩, ⟨9312, 9320, 1, -9263⟩,
    ⟨9398, 9423, 1, -9301⟩, ⟨9424, 9449, 1, -9327⟩, ⟨11264, 11311, 1, 48⟩, ⟨11392, 11490, 2, 1⟩,
    ⟨12602, 12607, 1, -8074⟩, ⟨12613, 12622, 1, -8252⟩, ⟨12623, 12643, 1, -8174⟩,
    ⟨13028, 13033, 1, -538⟩, ⟨13045, 13050, 1, -525⟩, ⟨42560, 42604, 2, 1⟩, ⟨42624, 42650, 2, 1⟩,
    ⟨42786, 42798, 2, 1⟩, ⟨42802, 42862, 2, 1⟩, ⟨42902, 42920, 2, 1⟩, ⟨42932, 42946, 2, 1⟩,
    ⟨65281, 65312, 1, -65248⟩, ⟨65313, 65338, 1, -65216⟩, ⟨65339, 65374, 1, -65248⟩,
    ⟨65413, 65418, 1, -52923⟩, ⟨65430, 65435, 1, -52910⟩, ⟨65450, 65455, 1, -60922⟩,
    ⟨65461, 65470, 1, -61100⟩, ⟨65474, 65479, 1, -61025⟩, ⟨65482, 65487, 1, -61027⟩,
    ⟨65490, 65495, 1, -61029⟩, ⟨66560, 66599, 1, 40⟩, ⟨66736, 66771, 1, 40⟩, ⟨66928, 66964, 2, 39⟩,
    ⟨68736, 68786, 1, 64⟩, ⟨71840, 71871, 1, 32⟩, ⟨93760, 93791, 1, 32⟩,
    ⟨119808, 119833, 1, -119711⟩, ⟨119834, 119859, 1, -119737⟩, ⟨119860, 119885, 1, -119763⟩,
    ⟨119886, 119910, 2, -119789⟩, ⟨119912, 119937, 1, -119815⟩, ⟨119938, 119963, 1, -119841⟩,
    ⟨119978, 119988, 2, -119867⟩, ⟨120003, 120015, 2, -119893⟩, ⟨120016, 120041, 1, -119919⟩,
    ⟨120042, 120067, 1, -119945⟩, ⟨120077, 120084, 1, -119971⟩, ⟨120086, 120092, 1, -119971⟩,
    ⟨120094, 120119, 1, -119997⟩, ⟨120124, 120134, 2, -120023⟩, ⟨120138, 120144, 1, -120023⟩,
    ⟨120146, 120171, 1, -120049⟩, ⟨120172, 120197, 1, -120075⟩, ⟨120198, 120223, 1, -120101⟩,
    ⟨120224, 120249, 1, -120127⟩, ⟨120250, 120275, 1, -120153⟩, ⟨120276, 120301, 1, -120179⟩,
    ⟨120302, 120327, 1, -120205⟩, ⟨120328, 120353, 1, -120231⟩, ⟨120354, 120379, 1, -120257⟩,
    ⟨120380, 120405, 1, -120283⟩, ⟨120406, 120431, 1, -120309⟩, ⟨120432, 120457, 1, -120335⟩,
    ⟨120458, 120483, 1, -120361⟩, ⟨120488, 120504, 1, -119543⟩, ⟨120506, 120512, 1, -119543⟩,
    ⟨120514, 120530, 1, -119569⟩, ⟨120532, 120538, 1, -119569⟩, ⟨120546, 120562, 1, -119601⟩,
    ⟨120564, 120570, 1, -119601⟩, ⟨120572, 120588, 1, -119627⟩, ⟨120590, 120596, 1, -119627⟩,
    ⟨120604, 120620, 1, -119659⟩, ⟨120622, 120628, 1, -119659⟩, ⟨120630, 120646, 1, -119685⟩,
    ⟨120648, 120654, 1, -119685⟩, ⟨120662, 120678, 1, -119717⟩, ⟨120680, 120686, 1, -119717⟩,
    ⟨120688, 120704, 1, -119743⟩, ⟨120706, 120712, 1, -119743⟩, ⟨120720, 120736, 1, -119775⟩,
    ⟨120738, 120744, 1, -119775⟩, ⟨120746, 120762, 1, -119801⟩, ⟨120764, 120770, 1, -119801⟩,
    ⟨120782, 120791, 1, -120734⟩, ⟨120792, 120801, 1, -120744⟩, ⟨120802, 120811, 1, -120754⟩,
    ⟨120812, 120821, 1, -120764⟩, ⟨120822, 120831, 1, -120774⟩, ⟨125184, 125217, 1, 34⟩]

/-- What all other characters stand for. A code point with a colon starts a series of neighbours,
each of which stands for the code points between plus signs, or for nothing. -/
def foldTable : List String := [
  "a0: 20 a8: 20+308 aa: 61 ad: - af: 20+304 b2: 32 33 20+301 3bc b8: 20+327 31 6f bc: 31+2044+34",
  "31+2044+32 33+2044+34 c0: 61+300 61+301 61+302 61+303 61+308 61+30a e6 63+327 65+300 65+301",
  "65+302 65+308 69+300 69+301 69+302 69+308 f0 6e+303 6f+300 6f+301 6f+302 6f+303 6f+308 d8: f8",
  "75+300 75+301 75+302 75+308 79+301 fe 73+73 61+300 61+301 61+302 61+303 61+308 61+30a e7:",
  "63+327 65+300 65+301 65+302 65+308 69+300 69+301 69+302 69+308 f1: 6e+303 6f+300 6f+301 6f+302",
  "6f+303 6f+308 f9: 75+300 75+301 75+302 75+308 79+301 ff: 79+308 61+304 61+304 61+306 61+306",
  "61+328 61+328 63+301 63+301 63+302 63+302 63+307 63+307 63+30c 63+30c 64+30c 64+30c 111 112:",
  "65+304 65+304 65+306 65+306 65+307 65+307 65+328 65+328 65+30c 65+30c 67+302 67+302 67+306",
  "67+306 67+307 67+307 67+327 67+327 68+302 68+302 127 128: 69+303 69+303 69+304 69+304 69+306",
  "69+306 69+328 69+328 69+307 132: 69+6a 69+6a 6a+302 6a+302 6b+327 6b+327 139: 6c+301 6c+301",
  "6c+327 6c+327 6c+30c 6c+30c 6c+b7 6c+b7 142 143: 6e+301 6e+301 6e+327 6e+327 6e+30c 6e+30c",
  "2bc+6e 14b 14c: 6f+304 6f+304 6f+306 6f+306 6f+30b 6f+30b 153 154: 72+301 72+301 72+327 72+327",
  "72+30c 72+30c 73+301 73+301 73+302 73+302 73+327 73+327 73+30c 73+30c 74+327 74+327 74+30c",
  "74+30c 167 168: 75+303 75+303 75+304 75+304 75+306 75+306 75+30a 75+30a 75+30b 75+30b 75+328",
  "75+328 77+302 77+302 79+302 79+302 79+308 7a+301 7a+301 7a+307 7a+307 7a+30c 7a+30c 73 181: 253",
  "183 184: 185 186: 254 188 189: 256 257 18c 18e: 1dd 259 25b 192 193: 260 263 196: 269 268 199",
  "19c: 26f 272 19f: 275 6f+31b 6f+31b 1a3 1a4: 1a5 1a6: 280 1a8 1a9: 283 1ac: 1ad 1ae: 288 75+31b",
  "75+31b 28a 28b 1b4 1b5: 1b6 1b7: 292 1b9 1bc: 1bd 1c4: 64+7a+30c 64+7a+30c 64+7a+30c 6c+6a",
  "6c+6a 6c+6a 6e+6a 6e+6a 6e+6a 61+30c 61+30c 69+30c 69+30c 6f+30c 6f+30c 75+30c 75+30c",
  "75+308+304 75+308+304 75+308+301 75+308+301 75+308+30c 75+308+30c 75+308+300 75+308+300 1de:",
  "61+308+304 61+308+304 61+307+304 61+307+304 e6+304 e6+304 1e5 1e6: 67+30c 67+30c 6b+30c 6b+30c",
  "6f+328 6f+328 6f+328+304 6f+328+304 292+30c 292+30c 6a+30c 64+7a 64+7a 64+7a 67+301 67+301 195",
  "1bf 6e+300 6e+300 61+30a+301 61+30a+301 e6+301 e6+301 f8+301 f8+301 61+30f 61+30f 61+311 61+311",
  "65+30f 65+30f 65+311 65+311 69+30f 69+30f 69+311 69+311 6f+30f 6f+30f 6f+311 6f+311 72+30f",
  "72+30f 72+311 72+311 75+30f 75+30f 75+311 75+311 73+326 73+326 74+326 74+326 21d 21e: 68+30c",
  "68+30c 19e 222: 223 224: 225 226: 61+307 61+307 65+327 65+327 6f+308+304 6f+308+304 6f+303+304",
  "6f+303+304 6f+307 6f+307 6f+307+304 6f+307+304 79+304 79+304 23a: 2c65 23c 23d: 19a 2c66 241:",
  "242 243: 180 289 28c 247 248: 249 24a: 24b 24c: 24d 24e: 24f 2b0: 68 266 6a 72 279 27b 281 77",
  "79 2d8: 20+306 20+307 20+30a 20+328 20+303 20+30b 2e0: 263 6c 73 78 295 340: 300 301 343: 313",
  "308+301 3b9 34f: - 370: 371 372: 373 374: 2b9 376: 377 37a: 20+3b9 37e: 3b 3f3 384: 20+301",
  "20+308+301 3b1+301 b7 3b5+301 3b7+301 3b9+301 38c: 3bf+301 38e: 3c5+301 3c9+301 3b9+308+301",
  "3aa: 3b9+308 3c5+308 3b1+301 3b5+301 3b7+301 3b9+301 3c5+308+301 3c2: 3c3 3ca: 3b9+308 3c5+308",
  "3bf+301 3c5+301 3c9+301 3d7 3b2 3b8 3c5 3c5+301 3c5+308 3c6 3c0 3f0: 3ba 3c1 3c3 3f4: 3b8 3b5",
  "3f7: 3f8 3f9: 3c3 3fb 3fd: 37b 37c 37d 435+300 435+308 452 433+301 454 455 456 456+308 458 459",
  "45a 45b 43a+301 438+300 443+306 45f 411: 431 413: 433 415: 435 417: 437 419: 438+306 41b: 43b",
  "41d: 43d 41f: 43f 421: 441 423: 443 425: 445 427: 447 429: 449 42b: 44b 42d: 44d 42f: 44f 439:",
  "438+306 450: 435+300 435+308 453: 433+301 457: 456+308 45c: 43a+301 438+300 443+306 476:",
  "475+30f 475+30f 479 47a: 47b 47c: 47d 47e: 47f 480: 481 4c0: 4cf 436+306 436+306 4d0: 430+306",
  "430+306 430+308 430+308 4d5 4d6: 435+306 435+306 4d9 4da: 4d9+308 4d9+308 436+308 436+308",
  "437+308 437+308 4e1 4e2: 438+304 438+304 438+308 438+308 43e+308 43e+308 4e9 4ea: 4e9+308",
  "4e9+308 44d+308 44d+308 443+304 443+304 443+308 443+308 443+30b 443+30b 447+308 447+308 4f7",
  "4f8: 44b+308 44b+308 587: 565+582 622: 627+653 627+654 648+654 627+655 64a+654 675: 627+674",
  "648+674 6c7+674 64a+674 6c0: 6d5+654 6c2: 6c1+654 6d3: 6d2+654 929: 928+93c 931: 930+93c 934:",
  "933+93c 958: 915+93c 916+93c 917+93c 91c+93c 921+93c 922+93c 92b+93c 92f+93c 9cb: 9c7+9be",
  "9c7+9d7 9dc: 9a1+9bc 9a2+9bc 9df: 9af+9bc a33: a32+a3c a36: a38+a3c a59: a16+a3c a17+a3c",
  "a1c+a3c a5e: a2b+a3c b48: b47+b56 b4b: b47+b3e b47+b57 b5c: b21+b3c b22+b3c b94: b92+bd7 bca:",
  "bc6+bbe bc7+bbe bc6+bd7 c48: c46+c56 cc0: cbf+cd5 cc7: cc6+cd5 cc6+cd6 cca: cc6+cc2 cc6+cc2+cd5",
  "d4a: d46+d3e d47+d3e d46+d57 dda: dd9+dca ddc: dd9+dcf dd9+dcf+dca dd9+ddf e33: e4d+e32 eb3:",
  "ecd+eb2 edc: eab+e99 eab+ea1 f0c: f0b f43: f42+fb7 f4d: f4c+fb7 f52: f51+fb7 f57: f56+fb7 f5c:",
  "f5b+fb7 f69: f40+fb5 f73: f71+f72 f75: f71+f74 fb2+f80 fb2+f71+f80 fb3+f80 fb3+f71+f80 f81:",
  "f71+f80 f93: f92+fb7 f9d: f9c+fb7 fa2: fa1+fb7 fa7: fa6+fb7 fac: fab+fb7 fb9: f90+fb5 1026:",
  "1025+102e 10c7: 2d27 10cd: 2d2d 1806: - 180b: - - - 1cbd: 10fd 10fe 10ff 1e00: 61+325 61+325",
  "62+307 62+307 62+323 62+323 62+331 62+331 63+327+301 63+327+301 64+307 64+307 64+323 64+323",
  "64+331 64+331 64+327 64+327 64+32d 64+32d 65+304+300 65+304+300 65+304+301 65+304+301 65+32d",
  "65+32d 65+330 65+330 65+327+306 65+327+306 66+307 66+307 67+304 67+304 68+307 68+307 68+323",
  "68+323 68+308 68+308 68+327 68+327 68+32e 68+32e 69+330 69+330 69+308+301 69+308+301 6b+301",
  "6b+301 6b+323 6b+323 6b+331 6b+331 6c+323 6c+323 6c+323+304 6c+323+304 6c+331 6c+331 6c+32d",
  "6c+32d 6d+301 6d+301 6d+307 6d+307 6d+323 6d+323 6e+307 6e+307 6e+323 6e+323 6e+331 6e+331",
  "6e+32d 6e+32d 6f+303+301 6f+303+301 6f+303+308 6f+303+308 6f+304+300 6f+304+300 6f+304+301",
  "6f+304+301 70+301 70+301 70+307 70+307 72+307 72+307 72+323 72+323 72+323+304 72+323+304 72+331",
  "72+331 73+307 73+307 73+323 73+323 73+301+307 73+301+307 73+30c+307 73+30c+307 73+323+307",
  "73+323+307 74+307 74+307 74+323 74+323 74+331 74+331 74+32d 74+32d 75+324 75+324 75+330 75+330",
  "75+32d 75+32d 75+303+301 75+303+301 75+304+308 75+304+308 76+303 76+303 76+323 76+323 77+300",
  "77+300 77+301 77+301 77+308 77+308 77+307 77+307 77+323 77+323 78+307 78+307 78+308 78+308",
  "79+307 79+307 7a+302 7a+302 7a+323 7a+323 7a+331 7a+331 68+331 74+308 77+30a 79+30a 61+2be",
  "73+307 1e9e: 73+73 1ea0: 61+323 61+323 61+309 61+309 61+302+301 61+302+301 61+302+300",
  "61+302+300 61+302+309 61+302+309 61+302+303 61+302+303 61+323+302 61+323+302 61+306+301",
  "61+306+301 61+306+300 61+306+300 61+306+309 61+306+309 61+306+303 61+306+303 61+323+306",
  "61+323+306 65+323 65+323 65+309 65+309 65+303 65+303 65+302+301 65+302+301 65+302+300",
  "65+302+300 65+302+309 65+302+309 65+302+303 65+302+303 65+323+302 65+323+302 69+309 69+309",
  "69+323 69+323 6f+323 6f+323 6f+309 6f+309 6f+302+301 6f+302+301 6f+302+300 6f+302+300",
  "6f+302+309 6f+302+309 6f+302+303 6f+302+303 6f+323+302 6f+323+302 6f+31b+301 6f+31b+301",
  "6f+31b+300 6f+31b+300 6f+31b+309 6f+31b+309 6f+31b+303 6f+31b+303 6f+31b+323 6f+31b+323 75+323",
  "75+323 75+309 75+309 75+31b+301 75+31b+301 75+31b+300 75+31b+300 75+31b+309 75+31b+309",
  "75+31b+303 75+31b+303 75+31b+323 75+31b+323 79+300 79+300 79+323 79+323 79+309 79+309 79+303",
  "79+303 1efb 1efc: 1efd 1efe: 1eff 1f00: 3b1+313 3b1+314 3b1+313+300 3b1+314+300 3b1+313+301",
  "3b1+314+301 3b1+313+342 3b1+314+342 3b1+313 3b1+314 3b1+313+300 3b1+314+300 3b1+313+301",
  "3b1+314+301 3b1+313+342 3b1+314+342 3b5+313 3b5+314 3b5+313+300 3b5+314+300 3b5+313+301",
  "3b5+314+301 1f18: 3b5+313 3b5+314 3b5+313+300 3b5+314+300 3b5+313+301 3b5+314+301 1f20: 3b7+313",
  "3b7+314 3b7+313+300 3b7+314+300 3b7+313+301 3b7+314+301 3b7+313+342 3b7+314+342 3b7+313 3b7+314",
  "3b7+313+300 3b7+314+300 3b7+313+301 3b7+314+301 3b7+313+342 3b7+314+342 3b9+313 3b9+314",
  "3b9+313+300 3b9+314+300 3b9+313+301 3b9+314+301 3b9+313+342 3b9+314+342 3b9+313 3b9+314",
  "3b9+313+300 3b9+314+300 3b9+313+301 3b9+314+301 3b9+313+342 3b9+314+342 3bf+313 3bf+314",
  "3bf+313+300 3bf+314+300 3bf+313+301 3bf+314+301 1f48: 3bf+313 3bf+314 3bf+313+300 3bf+314+300",
  "3bf+313+301 3bf+314+301 1f50: 3c5+313 3c5+314 3c5+313+300 3c5+314+300 3c5+313+301 3c5+314+301",
  "3c5+313+342 3c5+314+342 1f59: 3c5+314 1f5b: 3c5+314+300 1f5d: 3c5+314+301 1f5f: 3c5+314+342",
  "3c9+313 3c9+314 3c9+313+300 3c9+314+300 3c9+313+301 3c9+314+301 3c9+313+342 3c9+314+342 3c9+313",
  "3c9+314 3c9+313+300 3c9+314+300 3c9+313+301 3c9+314+301 3c9+313+342 3c9+314+342 3b1+300 3b1+301",
  "3b5+300 3b5+301 3b7+300 3b7+301 3b9+300 3b9+301 3bf+300 3bf+301 3c5+300 3c5+301 3c9+300 3c9+301",
  "1f80: 3b1+313+3b9 3b1+314+3b9 3b1+313+300+3b9 3b1+314+300+3b9 3b1+313+301+3b9 3b1+314+301+3b9",
  "3b1+313+342+3b9 3b1+314+342+3b9 3b1+313+3b9 3b1+314+3b9 3b1+313+300+3b9 3b1+314+300+3b9",
  "3b1+313+301+3b9 3b1+314+301+3b9 3b1+313+342+3b9 3b1+314+342+3b9 3b7+313+3b9 3b7+314+3b9",
  "3b7+313+300+3b9 3b7+314+300+3b9 3b7+313+301+3b9 3b7+314+301+3b9 3b7+313+342+3b9 3b7+314+342+3b9",
  "3b7+313+3b9 3b7+314+3b9 3b7+313+300+3b9 3b7+314+300+3b9 3b7+313+301+3b9 3b7+314+301+3b9",
  "3b7+313+342+3b9 3b7+314+342+3b9 3c9+313+3b9 3c9+314+3b9 3c9+313+300+3b9 3c9+314+300+3b9",
  "3c9+313+301+3b9 3c9+314+301+3b9 3c9+313+342+3b9 3c9+314+342+3b9 3c9+313+3b9 3c9+314+3b9",
  "3c9+313+300+3b9 3c9+314+300+3b9 3c9+313+301+3b9 3c9+314+301+3b9 3c9+313+342+3b9 3c9+314+342+3b9",
  "3b1+306 3b1+304 3b1+300+3b9 3b1+3b9 3b1+301+3b9 1fb6: 3b1+342 3b1+342+3b9 3b1+306 3b1+304",
  "3b1+300 3b1+301 3b1+3b9 20+313 3b9 20+313 20+342 20+308+342 3b7+300+3b9 3b7+3b9 3b7+301+3b9",
  "1fc6: 3b7+342 3b7+342+3b9 3b5+300 3b5+301 3b7+300 3b7+301 3b7+3b9 20+313+300 20+313+301",
  "20+313+342 3b9+306 3b9+304 3b9+308+300 3b9+308+301 1fd6: 3b9+342 3b9+308+342 3b9+306 3b9+304",
  "3b9+300 3b9+301 1fdd: 20+314+300 20+314+301 20+314+342 3c5+306 3c5+304 3c5+308+300 3c5+308+301",
  "3c1+313 3c1+314 3c5+342 3c5+308+342 3c5+306 3c5+304 3c5+300 3c5+301 3c1+314 20+308+300",
  "20+308+301 60 1ff2: 3c9+300+3b9 3c9+3b9 3c9+301+3b9 1ff6: 3c9+342 3c9+342+3b9 3bf+300 3bf+301",
  "3c9+300 3c9+301 3c9+3b9 20+301 20+314 2000: 20 20 20 20 20 20 20 20 20 20 20 - - - 2011: 2010",
  "2017: 20+333 2024: 2e 2e+2e 2e+2e+2e 202f: 20 2033: 2032+2032 2032+2032+2032 2036: 2035+2035",
  "2035+2035+2035 203c: 21+21 203e: 20+305 2047: 3f+3f 3f+21 21+3f 2057: 2032+2032+2032+2032 205f:",
  "20 - 2070: 30 69 207a: 2b 2212 3d 28 29 6e 208a: 2b 2212 3d 28 29 20a8: 72+73 2100: 61+2f+63",
  "61+2f+73 63 b0+63 2105: 63+2f+6f 63+2f+75 25b 2109: b0+66 67 68 68 68 68 127 69 69 6c 6c 2115:",
  "6e 6e+6f 2119: 70 71 72 72 72 2120: 73+6d 74+65+6c 74+6d 2124: 7a 2126: 3c9 2128: 7a 212a: 6b",
  "61+30a 62 63 212f: 65 65 66 214e 6d 6f 5d0 5d1 5d2 5d3 69 213d: 3b3 3b3 3c0 2211 2145: 64 64 65",
  "69 6a 2153: 31+2044+33 32+2044+33 31+2044+35 32+2044+35 33+2044+35 34+2044+35 31+2044+36",
  "35+2044+36 31+2044+38 33+2044+38 35+2044+38 37+2044+38 31+2044 69 69+69 69+69+69 69+76 76 76+69",
  "76+69+69 76+69+69+69 69+78 78 78+69 78+69+69 6c 63 64 6d 69 69+69 69+69+69 69+76 76 76+69",
  "76+69+69 76+69+69+69 69+78 78 78+69 78+69+69 6c 63 64 6d 2183: 2184 219a: 2190+338 2192+338",
  "21ae: 2194+338 21cd: 21d0+338 21d4+338 21d2+338 2204: 2203+338 2209: 2208+338 220c: 220b+338",
  "2224: 2223+338 2226: 2225+338 222c: 222b+222b 222b+222b+222b 222f: 222e+222e 222e+222e+222e",
  "2241: 223c+338 2244: 2243+338 2247: 2245+338 2249: 2248+338 2260: 3d+338 2262: 2261+338 226d:",
  "224d+338 3c+338 3e+338 2264+338 2265+338 2274: 2272+338 2273+338 2278: 2276+338 2277+338 2280:",
  "227a+338 227b+338 2284: 2282+338 2283+338 2288: 2286+338 2287+338 22ac: 22a2+338 22a8+338",
  "22a9+338 22ab+338 22e0: 227c+338 227d+338 2291+338 2292+338 22ea: 22b2+338 22b3+338 22b4+338",
  "22b5+338 2329: 3008 3009 2469: 31+30 31+31 31+32 31+33 31+34 31+35 31+36 31+37 31+38 31+39",
  "32+30 28+31+29 28+32+29 28+33+29 28+34+29 28+35+29 28+36+29 28+37+29 28+38+29 28+39+29",
  "28+31+30+29 28+31+31+29 28+31+32+29 28+31+33+29 28+31+34+29 28+31+35+29 28+31+36+29 28+31+37+29",
  "28+31+38+29 28+31+39+29 28+32+30+29 31+2e 32+2e 33+2e 34+2e 35+2e 36+2e 37+2e 38+2e 39+2e",
  "31+30+2e 31+31+2e 31+32+2e 31+33+2e 31+34+2e 31+35+2e 31+36+2e 31+37+2e 31+38+2e 31+39+2e",
  "32+30+2e 28+61+29 28+62+29 28+63+29 28+64+29 28+65+29 28+66+29 28+67+29 28+68+29 28+69+29",
  "28+6a+29 28+6b+29 28+6c+29 28+6d+29 28+6e+29 28+6f+29 28+70+29 28+71+29 28+72+29 28+73+29",
  "28+74+29 28+75+29 28+76+29 28+77+29 28+78+29 28+79+29 28+7a+29 24ea: 30 2a0c:",
  "222b+222b+222b+222b 2a74: 3a+3a+3d 3d+3d 3d+3d+3d 2adc: 2add+338 2c60: 2c61 2c62: 26b 1d7d 27d",
  "2c67: 2c68 2c69: 2c6a 2c6b: 2c6c 2c6d: 251 271 250 252 2c72: 2c73 2c75: 2c76 2c7e: 23f 240",
  "2ceb: 2cec 2ced: 2cee 2cf2: 2cf3 2e9f: 6bcd 2ef3: 9f9f 2f00: 4e00 4e28 4e36 4e3f 4e59 4e85 4e8c",
  "4ea0 4eba 513f 5165 516b 5182 5196 51ab 51e0 51f5 5200 529b 52f9 5315 531a 5338 5341 535c 5369",
  "5382 53b6 53c8 53e3 56d7 571f 58eb 5902 590a 5915 5927 5973 5b50 5b80 5bf8 5c0f 5c22 5c38 5c6e",
  "5c71 5ddb 5de5 5df1 5dfe 5e72 5e7a 5e7f 5ef4 5efe 5f0b 5f13 5f50 5f61 5f73 5fc3 6208 6236 624b",
  "652f 6534 6587 6597 65a4 65b9 65e0 65e5 66f0 6708 6728 6b20 6b62 6b79 6bb3 6bcb 6bd4 6bdb 6c0f",
  "6c14 6c34 706b 722a 7236 723b 723f 7247 7259 725b 72ac 7384 7389 74dc 74e6 7518 751f 7528 7530",
  "758b 7592 7676 767d 76ae 76bf 76ee 77db 77e2 77f3 793a 79b8 79be 7a74 7acb 7af9 7c73 7cf8 7f36",
  "7f51 7f8a 7fbd 8001 800c 8012 8033 807f 8089 81e3 81ea 81f3 81fc 820c 821b 821f 826e 8272 8278",
  "864d 866b 8840 884c 8863 897e 898b 89d2 8a00 8c37 8c46 8c55 8c78 8c9d 8d64 8d70 8db3 8eab 8eca",
  "8f9b 8fb0 8fb5 9091 9149 91c6 91cc 91d1 9577 9580 961c 96b6 96b9 96e8 9751 975e 9762 9769 97cb",
  "97ed 97f3 9801 98a8 98db 98df 9996 9999 99ac 9aa8 9ad8 9adf 9b25 9b2f 9b32 9b3c 9b5a 9ce5 9e75",
  "9e7f 9ea5 9ebb 9ec3 9ecd 9ed1 9ef9 9efd 9f0e 9f13 9f20 9f3b 9f4a 9f52 9f8d 9f9c 9fa0 3000: 20",
  "3036: 3012 3038: 5341 5344 5345 304c: 304b+3099 304e: 304d+3099 3050: 304f+3099 3052: 3051+3099",
  "3054: 3053+3099 3056: 3055+3099 3058: 3057+3099 305a: 3059+3099 305c: 305b+3099 305e: 305d+3099",
  "3060: 305f+3099 3062: 3061+3099 3065: 3064+3099 3067: 3066+3099 3069: 3068+3099 3070: 306f+3099",
  "306f+309a 3073: 3072+3099 3072+309a 3076: 3075+3099 3075+309a 3079: 3078+3099 3078+309a 307c:",
  "307b+3099 307b+309a 3094: 3046+3099 309b: 20+3099 20+309a 309e: 309d+3099 3088+308a 30ac:",
  "30ab+3099 30ae: 30ad+3099 30b0: 30af+3099 30b2: 30b1+3099 30b4: 30b3+3099 30b6: 30b5+3099 30b8:",
  "30b7+3099 30ba: 30b9+3099 30bc: 30bb+3099 30be: 30bd+3099 30c0: 30bf+3099 30c2: 30c1+3099 30c5:",
  "30c4+3099 30c7: 30c6+3099 30c9: 30c8+3099 30d0: 30cf+3099 30cf+309a 30d3: 30d2+3099 30d2+309a",
  "30d6: 30d5+3099 30d5+309a 30d9: 30d8+3099 30d8+309a 30dc: 30db+3099 30db+309a 30f4: 30a6+3099",
  "30f7: 30ef+3099 30f0+3099 30f1+3099 30f2+3099 30fe: 30fd+3099 30b3+30c8 3131: 1100 1101 11aa",
  "1102 11ac 11ad 1103 1104 1105 3140: 111a 1106 1107 1108 1121 3164: 1160 1114 1115 11c7 11c8",
  "11cc 11ce 11d3 11d7 11d9 111c 11dd 11df 111d 111e 1120 1122 1123 1127 1129 112b 112c 112d 112e",
  "112f 1132 1136 1140 1147 114c 11f1 11f2 1157 1158 1159 1184 1185 1188 1191 1192 1194 119e 11a1",
  "3192: 4e00 4e8c 4e09 56db 4e0a 4e2d 4e0b 7532 4e59 4e19 4e01 5929 5730 4eba 3200: 28+1100+29",
  "28+1102+29 28+1103+29 28+1105+29 28+1106+29 28+1107+29 28+1109+29 28+110b+29 28+110c+29",
  "28+110e+29 28+110f+29 28+1110+29 28+1111+29 28+1112+29 28+1100+1161+29 28+1102+1161+29",
  "28+1103+1161+29 28+1105+1161+29 28+1106+1161+29 28+1107+1161+29 28+1109+1161+29 28+110b+1161+29",
  "28+110c+1161+29 28+110e+1161+29 28+110f+1161+29 28+1110+1161+29 28+1111+1161+29 28+1112+1161+29",
  "28+110c+116e+29 3220: 28+4e00+29 28+4e8c+29 28+4e09+29 28+56db+29 28+4e94+29 28+516d+29",
  "28+4e03+29 28+516b+29 28+4e5d+29 28+5341+29 28+6708+29 28+706b+29 28+6c34+29 28+6728+29",
  "28+91d1+29 28+571f+29 28+65e5+29 28+682a+29 28+6709+29 28+793e+29 28+540d+29 28+7279+29",
  "28+8ca1+29 28+795d+29 28+52b4+29 28+4ee3+29 28+547c+29 28+5b66+29 28+76e3+29 28+4f01+29",
  "28+8cc7+29 28+5354+29 28+796d+29 28+4f11+29 28+81ea+29 28+81f3+29 3251: 32+31 32+32 32+33 32+34",
  "32+35 32+36 32+37 32+38 32+39 33+30 33+31 33+32 33+33 33+34 33+35 1100 1102 1103 1105 1106 1107",
  "1109 110b 110c 110e 110f 1110 1111 1112 1100+1161 1102+1161 1103+1161 1105+1161 1106+1161",
  "1107+1161 1109+1161 110b+1161 110c+1161 110e+1161 110f+1161 1110+1161 1111+1161 1112+1161 3280:",
  "4e00 4e8c 4e09 56db 4e94 516d 4e03 516b 4e5d 5341 6708 706b 6c34 6728 91d1 571f 65e5 682a 6709",
  "793e 540d 7279 8ca1 795d 52b4 79d8 7537 5973 9069 512a 5370 6ce8 9805 4f11 5199 6b63 4e0a 4e2d",
  "4e0b 5de6 53f3 533b 5b97 5b66 76e3 4f01 8cc7 5354 591c 33+36 33+37 33+38 33+39 34+30 34+31",
  "34+32 34+33 34+34 34+35 34+36 34+37 34+38 34+39 35+30 31+6708 32+6708 33+6708 34+6708 35+6708",
  "36+6708 37+6708 38+6708 39+6708 31+30+6708 31+31+6708 31+32+6708 32d0: 30a2 30a4 30a6 30a8 30aa",
  "30ab 30ad 30af 30b1 30b3 30b5 30b7 30b9 30bb 30bd 30bf 30c1 30c4 30c6 30c8 32ea: 30d2 30d5 30d8",
  "30db 30de 30df 30e0 30e1 30e2 30e4 30e6 32fb: 30ef 30f0 30f1 30f2 3300:",
  "30a2+30cf+309a+30fc+30c8 30a2+30eb+30d5+30a1 30a2+30f3+30d8+309a+30a2 30a2+30fc+30eb",
  "30a4+30cb+30f3+30af+3099 30a4+30f3+30c1 30a6+30a9+30f3 30a8+30b9+30af+30fc+30c8+3099",
  "30a8+30fc+30ab+30fc 30aa+30f3+30b9 30aa+30fc+30e0 30ab+30a4+30ea 30ab+30e9+30c3+30c8",
  "30ab+30ed+30ea+30fc 30ab+3099+30ed+30f3 30ab+3099+30f3+30de 30ad+3099+30ab+3099",
  "30ad+3099+30cb+30fc 30ad+30e5+30ea+30fc 30ad+3099+30eb+30bf+3099+30fc 30ad+30ed",
  "30ad+30ed+30af+3099+30e9+30e0 30ad+30ed+30e1+30fc+30c8+30eb 30ad+30ed+30ef+30c3+30c8",
  "30af+3099+30e9+30e0 30af+3099+30e9+30e0+30c8+30f3 30af+30eb+30bb+3099+30a4+30ed",
  "30af+30ed+30fc+30cd 30b1+30fc+30b9 30b3+30eb+30ca 30b3+30fc+30db+309a 30b5+30a4+30af+30eb",
  "30b5+30f3+30c1+30fc+30e0 30b7+30ea+30f3+30af+3099 30bb+30f3+30c1 30bb+30f3+30c8",
  "30bf+3099+30fc+30b9 30c6+3099+30b7 30c8+3099+30eb 30c8+30f3 30ca+30ce 30ce+30c3+30c8",
  "30cf+30a4+30c4 30cf+309a+30fc+30bb+30f3+30c8 30cf+309a+30fc+30c4 30cf+3099+30fc+30ec+30eb",
  "30d2+309a+30a2+30b9+30c8+30eb 30d2+309a+30af+30eb 30d2+309a+30b3 30d2+3099+30eb",
  "30d5+30a1+30e9+30c3+30c8+3099 30d5+30a3+30fc+30c8 30d5+3099+30c3+30b7+30a7+30eb 30d5+30e9+30f3",
  "30d8+30af+30bf+30fc+30eb 30d8+309a+30bd 30d8+309a+30cb+30d2 30d8+30eb+30c4 30d8+309a+30f3+30b9",
  "30d8+309a+30fc+30b7+3099 30d8+3099+30fc+30bf 30db+309a+30a4+30f3+30c8 30db+3099+30eb+30c8",
  "30db+30f3 30db+309a+30f3+30c8+3099 30db+30fc+30eb 30db+30fc+30f3 30de+30a4+30af+30ed",
  "30de+30a4+30eb 30de+30c3+30cf 30de+30eb+30af 30de+30f3+30b7+30e7+30f3 30df+30af+30ed+30f3",
  "30df+30ea 30df+30ea+30cf+3099+30fc+30eb 30e1+30ab+3099 30e1+30ab+3099+30c8+30f3",
  "30e1+30fc+30c8+30eb 30e4+30fc+30c8+3099 30e4+30fc+30eb 30e6+30a2+30f3 30ea+30c3+30c8+30eb",
  "30ea+30e9 30eb+30d2+309a+30fc 30eb+30fc+30d5+3099+30eb 30ec+30e0 30ec+30f3+30c8+30b1+3099+30f3",
  "30ef+30c3+30c8 30+70b9 31+70b9 32+70b9 33+70b9 34+70b9 35+70b9 36+70b9 37+70b9 38+70b9 39+70b9",
  "31+30+70b9 31+31+70b9 31+32+70b9 31+33+70b9 31+34+70b9 31+35+70b9 31+36+70b9 31+37+70b9",
  "31+38+70b9 31+39+70b9 32+30+70b9 32+31+70b9 32+32+70b9 32+33+70b9 32+34+70b9 68+70+61 64+61",
  "61+75 62+61+72 6f+76 70+63 337b: 5e73+6210 662d+548c 5927+6b63 660e+6cbb 682a+5f0f+4f1a+793e",
  "70+61 6e+61 3bc+61 6d+61 6b+61 6b+62 6d+62 67+62 63+61+6c 6b+63+61+6c 70+66 6e+66 3bc+66 3bc+67",
  "6d+67 6b+67 68+7a 6b+68+7a 6d+68+7a 67+68+7a 74+68+7a 3bc+6c 6d+6c 64+6c 6b+6c 66+6d 6e+6d",
  "3bc+6d 6d+6d 63+6d 6b+6d 6d+6d+32 63+6d+32 6d+32 6b+6d+32 6d+6d+33 63+6d+33 6d+33 6b+6d+33",
  "6d+2215+73 6d+2215+73+32 70+61 6b+70+61 6d+70+61 67+70+61 72+61+64 72+61+64+2215+73",
  "72+61+64+2215+73+32 70+73 6e+73 3bc+73 6d+73 70+76 6e+76 3bc+76 6d+76 6b+76 6d+76 70+77 6e+77",
  "3bc+77 6d+77 6b+77 6d+77 6b+3c9 6d+3c9 61+2e+6d+2e 62+71 63+63 63+64 63+2215+6b+67 63+6f+2e",
  "64+62 67+79 68+61 68+70 69+6e 6b+6b 6b+6d 6b+74 6c+6d 6c+6e 6c+6f+67 6c+78 6d+62 6d+69+6c",
  "6d+6f+6c 70+68 70+2e+6d+2e 70+70+6d 70+72 73+72 73+76 77+62 33e0: 31+65e5 32+65e5 33+65e5",
  "34+65e5 35+65e5 36+65e5 37+65e5 38+65e5 39+65e5 31+30+65e5 31+31+65e5 31+32+65e5 31+33+65e5",
  "31+34+65e5 31+35+65e5 31+36+65e5 31+37+65e5 31+38+65e5 31+39+65e5 32+30+65e5 32+31+65e5",
  "32+32+65e5 32+33+65e5 32+34+65e5 32+35+65e5 32+36+65e5 32+37+65e5 32+38+65e5 32+39+65e5",
  "33+30+65e5 33+31+65e5 a779: a77a a77b: a77c a77d: 1d79 a77f a780: a781 a782: a783 a784: a785",
  "a786: a787 a78b: a78c a78d: 265 a790: a791 a792: a793 a7aa: 266 25c 261 26c 26a a7b0: 29e 287",
  "29d ab53 a7c4: a794 282 1d8e a7c8 a7c9: a7ca a7d0: a7d1 a7d6: a7d7 a7d8: a7d9 a7f5: a7f6 f900:",
  "8c48 66f4 8eca 8cc8 6ed1 4e32 53e5 9f9c 9f9c 5951 91d1 5587 5948 61f6 7669 7f85 863f 87ba 88f8",
  "908f 6a02 6d1b 70d9 73de 843d 916a 99f1 4e82 5375 6b04 721b 862d 9e1e 5d50 6feb 85cd 8964 62c9",
  "81d8 881f 5eca 6717 6d6a 72fc 90ce 4f86 51b7 52de 64c4 6ad3 7210 76e7 8001 8606 865c 8def 9732",
  "9b6f 9dfa 788c 797f 7da0 83c9 9304 9e7f 8ad6 58df 5f04 7c60 807e 7262 78ca 8cc2 96f7 58d8 5c62",
  "6a13 6dda 6f0f 7d2f 7e37 964b 52d2 808b 51dc 51cc 7a1c 7dbe 83f1 9675 8b80 62cf 6a02 8afe 4e39",
  "5be7 6012 7387 7570 5317 78fb 4fbf 5fa9 4e0d 6ccc 6578 7d22 53c3 585e 7701 8449 8aaa 6bba 8fb0",
  "6c88 62fe 82e5 63a0 7565 4eae 5169 51c9 6881 7ce7 826f 8ad2 91cf 52f5 5442 5973 5eec 65c5 6ffe",
  "792a 95ad 9a6a 9e97 9ece 529b 66c6 6b77 8f62 5e74 6190 6200 649a 6f23 7149 7489 79ca 7df4 806f",
  "8f26 84ee 9023 934a 5217 52a3 54bd 70c8 88c2 8aaa 5ec9 5ff5 637b 6bae 7c3e 7375 4ee4 56f9 5be7",
  "5dba 601c 73b2 7469 7f9a 8046 9234 96f6 9748 9818 4f8b 79ae 91b4 96b8 60e1 4e86 50da 5bee 5c3f",
  "6599 6a02 71ce 7642 84fc 907c 9f8d 6688 962e 5289 677b 67f3 6d41 6e9c 7409 7559 786b 7d10 985e",
  "516d 622e 9678 502b 5d19 6dea 8f2a 5f8b 6144 6817 7387 9686 5229 540f 5c65 6613 674e 68a8 6ce5",
  "7406 75e2 7f79 88cf 88e1 91cc 96e2 533f 6eba 541d 71d0 7498 85fa 96a3 9c57 9e9f 6797 6dcb 81e8",
  "7acb 7b20 7c92 72c0 7099 8b58 4ec0 8336 523a 5207 5ea6 62d3 7cd6 5b85 6d1e 66b4 8f3b 884c 964d",
  "898b 5ed3 5140 55c0 fa10: 585a fa12: 6674 fa15: 51de 732a 76ca 793c 795e 7965 798f 9756 7cbe",
  "7fbd fa20: 8612 fa22: 8af8 fa25: 9038 90fd fa2a: 98ef 98fc 9928 9db4 fa30: 4fae 50e7 514d 52c9",
  "52e4 5351 559d 5606 5668 5840 58a8 5c64 5c6e 6094 6168 618e 61f2 654f 65e2 6691 6885 6d77 6e1a",
  "6f22 716e 722b 7422 7891 793e 7949 7948 7950 7956 795d 798d 798e 7a40 7a81 7bc0 7df4 7e09 7e41",
  "7f72 8005 81ed 8279 8279 8457 8910 8996 8b01 8b39 8cd3 8d08 8fb6 9038 96e3 97ff 983b fb00:",
  "66+66 66+69 66+6c 66+66+69 66+66+6c 73+74 73+74 fb13: 574+576 574+565 574+56b 57e+576 574+56d",
  "fb1d: 5d9+5b4 fb1f: 5f2+5b7 5e2 5d0 5d3 5d4 5db 5dc 5dd 5e8 5ea 2b 5e9+5c1 5e9+5c2 5e9+5bc+5c1",
  "5e9+5bc+5c2 5d0+5b7 5d0+5b8 5d0+5bc 5d1+5bc 5d2+5bc 5d3+5bc 5d4+5bc 5d5+5bc 5d6+5bc fb38:",
  "5d8+5bc 5d9+5bc 5da+5bc 5db+5bc 5dc+5bc fb3e: 5de+5bc fb40: 5e0+5bc 5e1+5bc fb43: 5e3+5bc",
  "5e4+5bc fb46: 5e6+5bc 5e7+5bc 5e8+5bc 5e9+5bc 5ea+5bc 5d5+5b9 5d1+5bf 5db+5bf 5e4+5bf 5d0+5dc",
  "671 671 67b 67b 67b 67b 67e 67e 67e 67e 680 680 680 680 67a 67a 67a 67a 67f 67f 67f 67f 679 679",
  "679 679 6a4 6a4 6a4 6a4 6a6 6a6 6a6 6a6 684 684 684 684 683 683 683 683 686 686 686 686 687 687",
  "687 687 68d 68d 68c 68c 68e 68e 688 688 698 698 691 691 6a9 6a9 6a9 6a9 6af 6af 6af 6af 6b3 6b3",
  "6b3 6b3 6b1 6b1 6b1 6b1 6ba 6ba 6bb 6bb 6bb 6bb 6d5+654 6d5+654 6c1 6c1 6c1 6c1 6be 6be 6be 6be",
  "6d2 6d2 6d2+654 6d2+654 fbd3: 6ad 6ad 6ad 6ad 6c7 6c7 6c6 6c6 6c8 6c8 6c7+674 6cb 6cb 6c5 6c5",
  "6c9 6c9 6d0 6d0 6d0 6d0 649 649 64a+654+627 64a+654+627 64a+654+6d5 64a+654+6d5 64a+654+648",
  "64a+654+648 64a+654+6c7 64a+654+6c7 64a+654+6c6 64a+654+6c6 64a+654+6c8 64a+654+6c8 64a+654+6d0",
  "64a+654+6d0 64a+654+6d0 64a+654+649 64a+654+649 64a+654+649 6cc 6cc 6cc 6cc 64a+654+62c",
  "64a+654+62d 64a+654+645 64a+654+649 64a+654+64a 628+62c 628+62d 628+62e 628+645 628+649 628+64a",
  "62a+62c 62a+62d 62a+62e 62a+645 62a+649 62a+64a 62b+62c 62b+645 62b+649 62b+64a 62c+62d 62c+645",
  "62d+62c 62d+645 62e+62c 62e+62d 62e+645 633+62c 633+62d 633+62e 633+645 635+62d 635+645 636+62c",
  "636+62d 636+62e 636+645 637+62d 637+645 638+645 639+62c 639+645 63a+62c 63a+645 641+62c 641+62d",
  "641+62e 641+645 641+649 641+64a 642+62d 642+645 642+649 642+64a 643+627 643+62c 643+62d 643+62e",
  "643+644 643+645 643+649 643+64a 644+62c 644+62d 644+62e 644+645 644+649 644+64a 645+62c 645+62d",
  "645+62e 645+645 645+649 645+64a 646+62c 646+62d 646+62e 646+645 646+649 646+64a 647+62c 647+645",
  "647+649 647+64a 64a+62c 64a+62d 64a+62e 64a+645 64a+649 64a+64a 630+670 631+670 649+670",
  "20+64c+651 20+64d+651 20+64e+651 20+64f+651 20+650+651 20+651+670 64a+654+631 64a+654+632",
  "64a+654+645 64a+654+646 64a+654+649 64a+654+64a 628+631 628+632 628+645 628+646 628+649 628+64a",
  "62a+631 62a+632 62a+645 62a+646 62a+649 62a+64a 62b+631 62b+632 62b+645 62b+646 62b+649 62b+64a",
  "641+649 641+64a 642+649 642+64a 643+627 643+644 643+645 643+649 643+64a 644+645 644+649 644+64a",
  "645+627 645+645 646+631 646+632 646+645 646+646 646+649 646+64a 649+670 64a+631 64a+632 64a+645",
  "64a+646 64a+649 64a+64a 64a+654+62c 64a+654+62d 64a+654+62e 64a+654+645 64a+654+647 628+62c",
  "628+62d 628+62e 628+645 628+647 62a+62c 62a+62d 62a+62e 62a+645 62a+647 62b+645 62c+62d 62c+645",
  "62d+62c 62d+645 62e+62c 62e+645 633+62c 633+62d 633+62e 633+645 635+62d 635+62e 635+645 636+62c",
  "636+62d 636+62e 636+645 637+62d 638+645 639+62c 639+645 63a+62c 63a+645 641+62c 641+62d 641+62e",
  "641+645 642+62d 642+645 643+62c 643+62d 643+62e 643+644 643+645 644+62c 644+62d 644+62e 644+645",
  "644+647 645+62c 645+62d 645+62e 645+645 646+62c 646+62d 646+62e 646+645 646+647 647+62c 647+645",
  "647+670 64a+62c 64a+62d 64a+62e 64a+645 64a+647 64a+654+645 64a+654+647 628+645 628+647 62a+645",
  "62a+647 62b+645 62b+647 633+645 633+647 634+645 634+647 643+644 643+645 644+645 646+645 646+647",
  "64a+645 64a+647 640+64e+651 640+64f+651 640+650+651 637+649 637+64a 639+649 639+64a 63a+649",
  "63a+64a 633+649 633+64a 634+649 634+64a 62d+649 62d+64a 62c+649 62c+64a 62e+649 62e+64a 635+649",
  "635+64a 636+649 636+64a 634+62c 634+62d 634+62e 634+645 634+631 633+631 635+631 636+631 637+649",
  "637+64a 639+649 639+64a 63a+649 63a+64a 633+649 633+64a 634+649 634+64a 62d+649 62d+64a 62c+649",
  "62c+64a 62e+649 62e+64a 635+649 635+64a 636+649 636+64a 634+62c 634+62d 634+62e 634+645 634+631",
  "633+631 635+631 636+631 634+62c 634+62d 634+62e 634+645 633+647 634+647 637+645 633+62c 633+62d",
  "633+62e 634+62c 634+62d 634+62e 637+645 638+645 627+64b 627+64b fd50: 62a+62c+645 62a+62d+62c",
  "62a+62d+62c 62a+62d+645 62a+62e+645 62a+645+62c 62a+645+62d 62a+645+62e 62c+645+62d 62c+645+62d",
  "62d+645+64a 62d+645+649 633+62d+62c 633+62c+62d 633+62c+649 633+645+62d 633+645+62d 633+645+62c",
  "633+645+645 633+645+645 635+62d+62d 635+62d+62d 635+645+645 634+62d+645 634+62d+645 634+62c+64a",
  "634+645+62e 634+645+62e 634+645+645 634+645+645 636+62d+649 636+62e+645 636+62e+645 637+645+62d",
  "637+645+62d 637+645+645 637+645+64a 639+62c+645 639+645+645 639+645+645 639+645+649 63a+645+645",
  "63a+645+64a 63a+645+649 641+62e+645 641+62e+645 642+645+62d 642+645+645 644+62d+645 644+62d+64a",
  "644+62d+649 644+62c+62c 644+62c+62c 644+62e+645 644+62e+645 644+645+62d 644+645+62d 645+62d+62c",
  "645+62d+645 645+62d+64a 645+62c+62d 645+62c+645 645+62e+62c 645+62e+645 fd92: 645+62c+62e",
  "647+645+62c 647+645+645 646+62d+645 646+62d+649 646+62c+645 646+62c+645 646+62c+649 646+645+64a",
  "646+645+649 64a+645+645 64a+645+645 628+62e+64a 62a+62c+64a 62a+62c+649 62a+62e+64a 62a+62e+649",
  "62a+645+64a 62a+645+649 62c+645+64a 62c+62d+649 62c+645+649 633+62e+649 635+62d+64a 634+62d+64a",
  "636+62d+64a 644+62c+64a 644+645+64a 64a+62d+64a 64a+62c+64a 64a+645+64a 645+645+64a 642+645+64a",
  "646+62d+64a 642+645+62d 644+62d+645 639+645+64a 643+645+64a 646+62c+62d 645+62e+64a 644+62c+645",
  "643+645+645 644+62c+645 646+62c+62d 62c+62d+64a 62d+62c+64a 645+62c+64a 641+645+64a 628+62d+64a",
  "643+645+645 639+62c+645 635+645+645 633+62e+64a 646+62c+64a fdf0: 635+644+6d2 642+644+6d2",
  "627+644+644+647 627+643+628+631 645+62d+645+62f 635+644+639+645 631+633+648+644 639+644+64a+647",
  "648+633+644+645 635+644+649",
  "635+644+649+20+627+644+644+647+20+639+644+64a+647+20+648+633+644+645",
  "62c+644+20+62c+644+627+644+647 631+6cc+627+644 fe00: - - - - - - - - - - - - - - - - fe30:",
  "2e+2e 2014 2013 5f 5f 28 29 7b 7d 3014 3015 3010 3011 300a 300b 3008 3009 300c 300d 300e 300f",
  "fe49: 20+305 20+305 20+305 20+305 5f 5f 5f 2c 3001 2e fe54: 3b 3a 3f 21 2014 28 29 7b 7d 3014",
  "3015 23 26 2a 2b 2d 3c 3e 3d fe68: 5c 24 25 40 fe70: 20+64b 640+64b 20+64c fe74: 20+64d fe76:",
  "20+64e 640+64e 20+64f 640+64f 20+650 640+650 20+651 640+651 20+652 640+652 621 627+653 627+653",
  "627+654 627+654 648+654 648+654 627+655 627+655 64a+654 64a+654 64a+654 64a+654 627 627 628 628",
  "628 628 629 629 62a 62a 62a 62a 62b 62b 62b 62b 62c 62c 62c 62c 62d 62d 62d 62d 62e 62e 62e 62e",
  "62f 62f 630 630 631 631 632 632 633 633 633 633 634 634 634 634 635 635 635 635 636 636 636 636",
  "637 637 637 637 638 638 638 638 639 639 639 639 63a 63a 63a 63a 641 641 641 641 642 642 642 642",
  "643 643 643 643 644 644 644 644 645 645 645 645 646 646 646 646 647 647 647 647 648 648 649 649",
  "64a 64a 64a 64a 644+627+653 644+627+653 644+627+654 644+627+654 644+627+655 644+627+655 644+627",
  "644+627 feff: - ff5f: 2985 2986 3002 300c 300d 3001 30fb 30f2 30a1 30a3 30a5 30a7 30a9 30e3",
  "30e5 30e7 30c3 30fc 30a2 30a4 30a6 30a8 30aa 30ab 30ad 30af 30b1 30b3 30b5 30b7 30b9 30bb 30bd",
  "30bf 30c1 30c4 30c6 30c8 ff8b: 30d2 30d5 30d8 30db 30de 30df 30e0 30e1 30e2 30e4 30e6 ff9c:",
  "30ef 30f3 3099 309a 1160 1100 1101 11aa 1102 11ac 11ad 1103 1104 1105 ffb0: 111a 1106 1107 1108",
  "1121 ffda: 1173 1174 1175 ffe0: a2 a3 ac 20+304 a6 a5 20a9 ffe8: 2502 2190 2191 2192 2193 25a0",
  "25cb 10571: 10598 10573: 1059a 10575: 1059c 10577: 1059e 10579: 105a0 1057d: 105a4 1057f: 105a6",
  "10581: 105a8 10583: 105aa 10585: 105ac 10587: 105ae 10589: 105b0 1058d: 105b4 1058f: 105b6",
  "10591: 105b8 10595: 105bc 1d15e: 1d157+1d165 1d158+1d165 1d158+1d165+1d16e 1d158+1d165+1d16f",
  "1d158+1d165+1d170 1d158+1d165+1d171 1d158+1d165+1d172 1d1bb: 1d1b9+1d165 1d1ba+1d165",
  "1d1b9+1d165+1d16e 1d1ba+1d165+1d16e 1d1b9+1d165+1d16f 1d1ba+1d165+1d16f 1d44f: 62 1d451: 64",
  "1d453: 66 1d457: 6a 1d459: 6c 1d45b: 6e 1d45d: 70 1d45f: 72 1d461: 74 1d463: 76 1d465: 78",
  "1d467: 7a 1d49c: 61 1d49e: 63 64 1d4a2: 67 1d4a5: 6a 6b 1d4a9: 6e 1d4ab: 70 1d4af: 74 1d4b1: 76",
  "1d4b3: 78 1d4b5: 7a 61 62 63 64 1d4bb: 66 1d4bd: 68 69 6a 6b 1d4c2: 6d 1d4c6: 71 1d4c8: 73",
  "1d4ca: 75 1d4cc: 77 1d4ce: 79 1d504: 61 62 1d507: 64 65 66 67 1d538: 61 62 1d53b: 64 1d53d: 66",
  "1d541: 6a 1d543: 6c 1d6b9: 3b8 1d6c1: 2207 1d6d3: 3c3 1d6db: 2202 3b5 3b8 3ba 3c6 3c1 3c0",
  "1d6f3: 3b8 1d6fb: 2207 1d70d: 3c3 1d715: 2202 3b5 3b8 3ba 3c6 3c1 3c0 1d72d: 3b8 1d735: 2207",
  "1d747: 3c3 1d74f: 2202 3b5 3b8 3ba 3c6 3c1 3c0 1d767: 3b8 1d76f: 2207 1d781: 3c3 1d789: 2202",
  "3b5 3b8 3ba 3c6 3c1 3c0 1d7a1: 3b8 1d7a9: 2207 1d7bb: 3c3 1d7c3: 2202 3b5 3b8 3ba 3c6 3c1 3c0",
  "2f800: 4e3d 4e38 4e41 20122 4f60 4fae 4fbb 5002 507a 5099 50e7 50cf 349e 2063a 514d 5154 5164",
  "5177 2051c 34b9 5167 518d 2054b 5197 51a4 4ecc 51ac 51b5 291df 51f5 5203 34df 523b 5246 5272",
  "5277 3515 52c7 52c9 52e4 52fa 5305 5306 5317 5349 5351 535a 5373 537d 537f 537f 537f 20a2c 7070",
  "53ca 53df 20b63 53eb 53f1 5406 549e 5438 5448 5468 54a2 54f6 5510 5553 5563 5584 5584 5599 55ab",
  "55b3 55c2 5716 5606 5717 5651 5674 5207 58ee 57ce 57f4 580d 578b 5832 5831 58ac 214e4 58f2 58f7",
  "5906 591a 5922 5962 216a8 216ea 59ec 5a1b 5a27 59d8 5a66 36ee 2136a 5b08 5b3e 5b3e 219c8 5bc3",
  "5bd8 5be7 5bf3 21b18 5bff 5c06 5f33 5c22 3781 5c60 5c6e 5cc0 5c8d 21de4 5d43 21de6 5d6e 5d6b",
  "5d7c 5de1 5de2 382f 5dfd 5e28 5e3d 5e69 3862 22183 387c 5eb0 5eb3 5eb6 5eca 2a392 5efe 22331",
  "22331 8201 5f22 5f22 38c7 232b8 261da 5f62 5f6b 38e3 5f9a 5fcd 5fd7 5ff9 6081 393a 391c 6094",
  "226d4 60c7 6148 614c 614e 614c 617a 618e 61b2 61a4 61af 61de 61f2 61f6 6210 621b 625d 62b1 62d4",
  "6350 22b0c 633d 62fc 6368 6383 63e4 22bf1 6422 63c5 63a9 3a2e 6469 647e 649d 6477 3a6c 654f",
  "656c 2300a 65e3 66f8 6649 3b19 6691 3b08 3ae4 5192 5195 6700 669c 80ad 43d9 6717 671b 6721 675e",
  "6753 233c3 3b49 67fa 6785 6852 6885 2346d 688e 681f 6914 3b9d 6942 69a3 69ea 6aa8 236a3 6adb",
  "3c18 6b21 238a7 6b54 3c4e 6b72 6b9f 6bba 6bbb 23a8d 21d0b 23afa 6c4e 23cbc 6cbf 6ccd 6c67 6d16",
  "6d3e 6d77 6d41 6d69 6d78 6d85 23d1e 6d34 6e2f 6e6e 3d33 6ecb 6ec7 23ed1 6df9 6f6e 23f5e 23f8e",
  "6fc6 7039 701e 701b 3d96 704a 707d 7077 70ad 20525 7145 24263 719c 43ab 7228 7235 7250 24608",
  "7280 7295 24735 24814 737a 738b 3eac 73a5 3eb8 3eb8 7447 745c 7471 7485 74ca 3f1b 7524 24c36",
  "753e 24c92 7570 2219f 7610 24fa1 24fb8 25044 3ffc 4008 76f4 250f3 250f2 25119 25133 771e 771f",
  "771f 774a 4039 778b 4046 4096 2541d 784e 788c 78cc 40e3 25626 7956 2569a 256c5 798f 79eb 412f",
  "7a40 7a4a 7a4f 2597c 25aa7 25aa7 7aae 4202 25bab 7bc6 7bc9 4227 25c80 7cd2 42a0 7ce8 7ce3 7d00",
  "25f86 7d63 4301 7dc7 7e02 7e45 4334 26228 26247 4359 262d9 7f7a 2633e 7f95 7ffa 8005 264da",
  "26523 8060 265a8 8070 2335f 43d5 80b2 8103 440b 813e 5ab5 267a7 267b5 23393 2339c 8201 8204",
  "8f9e 446b 8291 828b 829d 52b3 82b1 82b3 82bd 82e6 26b3c 82e5 831d 8363 83ad 8323 83bd 83e7 8457",
  "8353 83ca 83cc 83dc 26c36 26d6b 26cd5 452b 84f1 84f3 8516 273ca 8564 26f2c 455d 4561 26fb1",
  "270d2 456b 8650 865c 8667 8669 86a9 8688 870e 86e2 8779 8728 876b 8786 4d57 87e1 8801 45f9 8860",
  "8863 27667 88d7 88de 4635 88fa 34bb 278ae 27966 46be 46c7 8aa0 8aed 8b8a 8c55 27ca8 8cab 8cc1",
  "8d1b 8d77 27f2f 20804 8dcb 8dbc 8df0 208de 8ed4 8f38 285d2 285ed 9094 90f1 9111 2872e 911b 9238",
  "92d7 92d8 927c 93f9 9415 28bfa 958b 4995 95b7 28d77 49e6 96c3 5db2 9723 29145 2921a 4a6e 4a76",
  "97e0 2940a 4ab2 29496 980b 980b 9829 295b6 98e2 4b33 9929 99a7 99c2 99fe 4bce 29b30 9b12 9c40",
  "9cfd 4cce 4ced 9d67 2a0ce 4cf8 2a105 2a20e 2a291 9ebb 4d56 9ef9 9efe 9f05 9f0f 9f16 9f3b 2a600"]

/-- What characters become with a mark, in the series of the mark: character and result. -/
def compositionTable : List String := [
  "300: 41=c0 45=c8 49=cc 4e=1f8 4f=d2 55=d9 57=1e80 59=1ef2 61=e0 65=e8 69=ec 6e=1f9 6f=f2 75=f9",
  "77=1e81 79=1ef3 a8=1fed c2=1ea6 ca=1ec0 d4=1ed2 dc=1db e2=1ea7 ea=1ec1 f4=1ed3 fc=1dc 102=1eb0",
  "103=1eb1 112=1e14 113=1e15 14c=1e50 14d=1e51 1a0=1edc 1a1=1edd 1af=1eea 1b0=1eeb 391=1fba",
  "395=1fc8 397=1fca 399=1fda 39f=1ff8 3a5=1fea 3a9=1ffa 3b1=1f70 3b5=1f72 3b7=1f74 3b9=1f76",
  "3bf=1f78 3c5=1f7a 3c9=1f7c 3ca=1fd2 3cb=1fe2 415=400 418=40d 435=450 438=45d 1f00=1f02",
  "1f01=1f03 1f08=1f0a 1f09=1f0b 1f10=1f12 1f11=1f13 1f18=1f1a 1f19=1f1b 1f20=1f22 1f21=1f23",
  "1f28=1f2a 1f29=1f2b 1f30=1f32 1f31=1f33 1f38=1f3a 1f39=1f3b 1f40=1f42 1f41=1f43 1f48=1f4a",
  "1f49=1f4b 1f50=1f52 1f51=1f53 1f59=1f5b 1f60=1f62 1f61=1f63 1f68=1f6a 1f69=1f6b 1fbf=1fcd",
  "1ffe=1fdd 301: 41=c1 43=106 45=c9 47=1f4 49=cd 4b=1e30 4c=139 4d=1e3e 4e=143 4f=d3 50=1e54",
  "52=154 53=15a 55=da 57=1e82 59=dd 5a=179 61=e1 63=107 65=e9 67=1f5 69=ed 6b=1e31 6c=13a 6d=1e3f",
  "6e=144 6f=f3 70=1e55 72=155 73=15b 75=fa 77=1e83 79=fd 7a=17a a8=385 c2=1ea4 c5=1fa c6=1fc",
  "c7=1e08 ca=1ebe cf=1e2e d4=1ed0 d5=1e4c d8=1fe dc=1d7 e2=1ea5 e5=1fb e6=1fd e7=1e09 ea=1ebf",
  "ef=1e2f f4=1ed1 f5=1e4d f8=1ff fc=1d8 102=1eae 103=1eaf 112=1e16 113=1e17 14c=1e52 14d=1e53",
  "168=1e78 169=1e79 1a0=1eda 1a1=1edb 1af=1ee8 1b0=1ee9 391=386 395=388 397=389 399=38a 39f=38c",
  "3a5=38e 3a9=38f 3b1=3ac 3b5=3ad 3b7=3ae 3b9=3af 3bf=3cc 3c5=3cd 3c9=3ce 3ca=390 3cb=3b0 3d2=3d3",
  "413=403 41a=40c 433=453 43a=45c 1f00=1f04 1f01=1f05 1f08=1f0c 1f09=1f0d 1f10=1f14 1f11=1f15",
  "1f18=1f1c 1f19=1f1d 1f20=1f24 1f21=1f25 1f28=1f2c 1f29=1f2d 1f30=1f34 1f31=1f35 1f38=1f3c",
  "1f39=1f3d 1f40=1f44 1f41=1f45 1f48=1f4c 1f49=1f4d 1f50=1f54 1f51=1f55 1f59=1f5d 1f60=1f64",
  "1f61=1f65 1f68=1f6c 1f69=1f6d 1fbf=1fce 1ffe=1fde 302: 41=c2 43=108 45=ca 47=11c 48=124 49=ce",
  "4a=134 4f=d4 53=15c 55=db 57=174 59=176 5a=1e90 61=e2 63=109 65=ea 67=11d 68=125 69=ee 6a=135",
  "6f=f4 73=15d 75=fb 77=175 79=177 7a=1e91 1ea0=1eac 1ea1=1ead 1eb8=1ec6 1eb9=1ec7 1ecc=1ed8",
  "1ecd=1ed9 303: 41=c3 45=1ebc 49=128 4e=d1 4f=d5 55=168 56=1e7c 59=1ef8 61=e3 65=1ebd 69=129",
  "6e=f1 6f=f5 75=169 76=1e7d 79=1ef9 c2=1eaa ca=1ec4 d4=1ed6 e2=1eab ea=1ec5 f4=1ed7 102=1eb4",
  "103=1eb5 1a0=1ee0 1a1=1ee1 1af=1eee 1b0=1eef 304: 41=100 45=112 47=1e20 49=12a 4f=14c 55=16a",
  "59=232 61=101 65=113 67=1e21 69=12b 6f=14d 75=16b 79=233 c4=1de c6=1e2 d5=22c d6=22a dc=1d5",
  "e4=1df e6=1e3 f5=22d f6=22b fc=1d6 1ea=1ec 1eb=1ed 226=1e0 227=1e1 22e=230 22f=231 391=1fb9",
  "399=1fd9 3a5=1fe9 3b1=1fb1 3b9=1fd1 3c5=1fe1 418=4e2 423=4ee 438=4e3 443=4ef 1e36=1e38",
  "1e37=1e39 1e5a=1e5c 1e5b=1e5d 306: 41=102 45=114 47=11e 49=12c 4f=14e 55=16c 61=103 65=115",
  "67=11f 69=12d 6f=14f 75=16d 228=1e1c 229=1e1d 391=1fb8 399=1fd8 3a5=1fe8 3b1=1fb0 3b9=1fd0",
  "3c5=1fe0 410=4d0 415=4d6 416=4c1 418=419 423=40e 430=4d1 435=4d7 436=4c2 438=439 443=45e",
  "1ea0=1eb6 1ea1=1eb7 307: 41=226 42=1e02 43=10a 44=1e0a 45=116 46=1e1e 47=120 48=1e22 49=130",
  "4d=1e40 4e=1e44 4f=22e 50=1e56 52=1e58 53=1e60 54=1e6a 57=1e86 58=1e8a 59=1e8e 5a=17b 61=227",
  "62=1e03 63=10b 64=1e0b 65=117 66=1e1f 67=121 68=1e23 6d=1e41 6e=1e45 6f=22f 70=1e57 72=1e59",
  "73=1e61 74=1e6b 77=1e87 78=1e8b 79=1e8f 7a=17c 15a=1e64 15b=1e65 160=1e66 161=1e67 17f=1e9b",
  "1e62=1e68 1e63=1e69 308: 41=c4 45=cb 48=1e26 49=cf 4f=d6 55=dc 57=1e84 58=1e8c 59=178 61=e4",
  "65=eb 68=1e27 69=ef 6f=f6 74=1e97 75=fc 77=1e85 78=1e8d 79=ff d5=1e4e f5=1e4f 16a=1e7a 16b=1e7b",
  "399=3aa 3a5=3ab 3b9=3ca 3c5=3cb 3d2=3d4 406=407 410=4d2 415=401 416=4dc 417=4de 418=4e4 41e=4e6",
  "423=4f0 427=4f4 42b=4f8 42d=4ec 430=4d3 435=451 436=4dd 437=4df 438=4e5 43e=4e7 443=4f1 447=4f5",
  "44b=4f9 44d=4ed 456=457 4d8=4da 4d9=4db 4e8=4ea 4e9=4eb 309: 41=1ea2 45=1eba 49=1ec8 4f=1ece",
  "55=1ee6 59=1ef6 61=1ea3 65=1ebb 69=1ec9 6f=1ecf 75=1ee7 79=1ef7 c2=1ea8 ca=1ec2 d4=1ed4 e2=1ea9",
  "ea=1ec3 f4=1ed5 102=1eb2 103=1eb3 1a0=1ede 1a1=1edf 1af=1eec 1b0=1eed 30a: 41=c5 55=16e 61=e5",
  "75=16f 77=1e98 79=1e99 30b: 4f=150 55=170 6f=151 75=171 423=4f2 443=4f3 30c: 41=1cd 43=10c",
  "44=10e 45=11a 47=1e6 48=21e 49=1cf 4b=1e8 4c=13d 4e=147 4f=1d1 52=158 53=160 54=164 55=1d3",
  "5a=17d 61=1ce 63=10d 64=10f 65=11b 67=1e7 68=21f 69=1d0 6a=1f0 6b=1e9 6c=13e 6e=148 6f=1d2",
  "72=159 73=161 74=165 75=1d4 7a=17e dc=1d9 fc=1da 1b7=1ee 292=1ef 30f: 41=200 45=204 49=208",
  "4f=20c 52=210 55=214 61=201 65=205 69=209 6f=20d 72=211 75=215 474=476 475=477 311: 41=202",
  "45=206 49=20a 4f=20e 52=212 55=216 61=203 65=207 69=20b 6f=20f 72=213 75=217 313: 391=1f08",
  "395=1f18 397=1f28 399=1f38 39f=1f48 3a9=1f68 3b1=1f00 3b5=1f10 3b7=1f20 3b9=1f30 3bf=1f40",
  "3c1=1fe4 3c5=1f50 3c9=1f60 314: 391=1f09 395=1f19 397=1f29 399=1f39 39f=1f49 3a1=1fec 3a5=1f59",
  "3a9=1f69 3b1=1f01 3b5=1f11 3b7=1f21 3b9=1f31 3bf=1f41 3c1=1fe5 3c5=1f51 3c9=1f61 31b: 4f=1a0",
  "55=1af 6f=1a1 75=1b0 323: 41=1ea0 42=1e04 44=1e0c 45=1eb8 48=1e24 49=1eca 4b=1e32 4c=1e36",
  "4d=1e42 4e=1e46 4f=1ecc 52=1e5a 53=1e62 54=1e6c 55=1ee4 56=1e7e 57=1e88 59=1ef4 5a=1e92 61=1ea1",
  "62=1e05 64=1e0d 65=1eb9 68=1e25 69=1ecb 6b=1e33 6c=1e37 6d=1e43 6e=1e47 6f=1ecd 72=1e5b 73=1e63",
  "74=1e6d 75=1ee5 76=1e7f 77=1e89 79=1ef5 7a=1e93 1a0=1ee2 1a1=1ee3 1af=1ef0 1b0=1ef1 324:",
  "55=1e72 75=1e73 325: 41=1e00 61=1e01 326: 53=218 54=21a 73=219 74=21b 327: 43=c7 44=1e10 45=228",
  "47=122 48=1e28 4b=136 4c=13b 4e=145 52=156 53=15e 54=162 63=e7 64=1e11 65=229 67=123 68=1e29",
  "6b=137 6c=13c 6e=146 72=157 73=15f 74=163 328: 41=104 45=118 49=12e 4f=1ea 55=172 61=105 65=119",
  "69=12f 6f=1eb 75=173 32d: 44=1e12 45=1e18 4c=1e3c 4e=1e4a 54=1e70 55=1e76 64=1e13 65=1e19",
  "6c=1e3d 6e=1e4b 74=1e71 75=1e77 32e: 48=1e2a 68=1e2b 330: 45=1e1a 49=1e2c 55=1e74 65=1e1b",
  "69=1e2d 75=1e75 331: 42=1e06 44=1e0e 4b=1e34 4c=1e3a 4e=1e48 52=1e5e 54=1e6e 5a=1e94 62=1e07",
  "64=1e0f 68=1e96 6b=1e35 6c=1e3b 6e=1e49 72=1e5f 74=1e6f 7a=1e95 338: 3c=226e 3d=2260 3e=226f",
  "2190=219a 2192=219b 2194=21ae 21d0=21cd 21d2=21cf 21d4=21ce 2203=2204 2208=2209 220b=220c",
  "2223=2224 2225=2226 223c=2241 2243=2244 2245=2247 2248=2249 224d=226d 2261=2262 2264=2270",
  "2265=2271 2272=2274 2273=2275 2276=2278 2277=2279 227a=2280 227b=2281 227c=22e0 227d=22e1",
  "2282=2284 2283=2285 2286=2288 2287=2289 2291=22e2 2292=22e3 22a2=22ac 22a8=22ad 22a9=22ae",
  "22ab=22af 22b2=22ea 22b3=22eb 22b4=22ec 22b5=22ed 342: a8=1fc1 3b1=1fb6 3b7=1fc6 3b9=1fd6",
  "3c5=1fe6 3c9=1ff6 3ca=1fd7 3cb=1fe7 1f00=1f06 1f01=1f07 1f08=1f0e 1f09=1f0f 1f20=1f26 1f21=1f27",
  "1f28=1f2e 1f29=1f2f 1f30=1f36 1f31=1f37 1f38=1f3e 1f39=1f3f 1f50=1f56 1f51=1f57 1f59=1f5f",
  "1f60=1f66 1f61=1f67 1f68=1f6e 1f69=1f6f 1fbf=1fcf 1ffe=1fdf 345: 391=1fbc 397=1fcc 3a9=1ffc",
  "3ac=1fb4 3ae=1fc4 3b1=1fb3 3b7=1fc3 3c9=1ff3 3ce=1ff4 1f00=1f80 1f01=1f81 1f02=1f82 1f03=1f83",
  "1f04=1f84 1f05=1f85 1f06=1f86 1f07=1f87 1f08=1f88 1f09=1f89 1f0a=1f8a 1f0b=1f8b 1f0c=1f8c",
  "1f0d=1f8d 1f0e=1f8e 1f0f=1f8f 1f20=1f90 1f21=1f91 1f22=1f92 1f23=1f93 1f24=1f94 1f25=1f95",
  "1f26=1f96 1f27=1f97 1f28=1f98 1f29=1f99 1f2a=1f9a 1f2b=1f9b 1f2c=1f9c 1f2d=1f9d 1f2e=1f9e",
  "1f2f=1f9f 1f60=1fa0 1f61=1fa1 1f62=1fa2 1f63=1fa3 1f64=1fa4 1f65=1fa5 1f66=1fa6 1f67=1fa7",
  "1f68=1fa8 1f69=1fa9 1f6a=1faa 1f6b=1fab 1f6c=1fac 1f6d=1fad 1f6e=1fae 1f6f=1faf 1f70=1fb2",
  "1f74=1fc2 1f7c=1ff2 1fb6=1fb7 1fc6=1fc7 1ff6=1ff7 653: 627=622 654: 627=623 648=624 64a=626",
  "6c1=6c2 6d2=6d3 6d5=6c0 655: 627=625 93c: 928=929 930=931 933=934 9be: 9c7=9cb 9d7: 9c7=9cc",
  "b3e: b47=b4b b56: b47=b48 b57: b47=b4c bbe: bc6=bca bc7=bcb bd7: b92=b94 bc6=bcc c56: c46=c48",
  "cc2: cc6=cca cd5: cbf=cc0 cc6=cc7 cca=ccb cd6: cc6=cc8 d3e: d46=d4a d47=d4b d57: d46=d4c dca:",
  "dd9=dda ddc=ddd dcf: dd9=ddc ddf: dd9=dde 102e: 1025=1026 1b35: 1b05=1b06 1b07=1b08 1b09=1b0a",
  "1b0b=1b0c 1b0d=1b0e 1b11=1b12 1b3a=1b3b 1b3c=1b3d 1b3e=1b40 1b3f=1b41 1b42=1b43 3099: 3046=3094",
  "304b=304c 304d=304e 304f=3050 3051=3052 3053=3054 3055=3056 3057=3058 3059=305a 305b=305c",
  "305d=305e 305f=3060 3061=3062 3064=3065 3066=3067 3068=3069 306f=3070 3072=3073 3075=3076",
  "3078=3079 307b=307c 309d=309e 30a6=30f4 30ab=30ac 30ad=30ae 30af=30b0 30b1=30b2 30b3=30b4",
  "30b5=30b6 30b7=30b8 30b9=30ba 30bb=30bc 30bd=30be 30bf=30c0 30c1=30c2 30c4=30c5 30c6=30c7",
  "30c8=30c9 30cf=30d0 30d2=30d3 30d5=30d6 30d8=30d9 30db=30dc 30ef=30f7 30f0=30f8 30f1=30f9",
  "30f2=30fa 30fd=30fe 309a: 306f=3071 3072=3074 3075=3077 3078=307a 307b=307d 30cf=30d1 30d2=30d4",
  "30d5=30d7 30d8=30da 30db=30dd 110ba: 11099=1109a 1109b=1109c 110a5=110ab 11127: 11131=1112e",
  "11132=1112f 1133e: 11347=1134b 11357: 11347=1134c 114b0: 114b9=114bc 114ba: 114b9=114bb 114bd:",
  "114b9=114be 115af: 115b8=115ba 115b9=115bb 11930: 11935=11938"]

/-- The order of marks behind their letter: first and last code point, and the place. -/
def orderRanges : List (Nat × Nat × Nat) :=
   [(768, 788, 230), (789, 789, 232), (790, 793, 220), (794, 794, 232), (795, 795, 216),
    (796, 800, 220), (801, 802, 202), (803, 806, 220), (807, 808, 202), (809, 819, 220),
    (820, 824, 1), (825, 828, 220), (829, 836, 230), (837, 837, 240), (838, 838, 230),
    (839, 841, 220), (842, 844, 230), (845, 846, 220), (848, 850, 230), (851, 854, 220),
    (855, 855, 230), (856, 856, 232), (857, 858, 220), (859, 859, 230), (860, 860, 233),
    (861, 862, 234), (863, 863, 233), (864, 865, 234), (866, 866, 233), (867, 879, 230),
    (1155, 1159, 230), (1425, 1425, 220), (1426, 1429, 230), (1430, 1430, 220), (1431, 1433, 230),
    (1434, 1434, 222), (1435, 1435, 220), (1436, 1441, 230), (1442, 1447, 220), (1448, 1449, 230),
    (1450, 1450, 220), (1451, 1452, 230), (1453, 1453, 222), (1454, 1454, 228), (1455, 1455, 230),
    (1456, 1456, 10), (1457, 1457, 11), (1458, 1458, 12), (1459, 1459, 13), (1460, 1460, 14),
    (1461, 1461, 15), (1462, 1462, 16), (1463, 1463, 17), (1464, 1464, 18), (1465, 1466, 19),
    (1467, 1467, 20), (1468, 1468, 21), (1469, 1469, 22), (1471, 1471, 23), (1473, 1473, 24),
    (1474, 1474, 25), (1476, 1476, 230), (1477, 1477, 220), (1479, 1479, 18), (1552, 1559, 230),
    (1560, 1560, 30), (1561, 1561, 31), (1562, 1562, 32), (1611, 1611, 27), (1612, 1612, 28),
    (1613, 1613, 29), (1614, 1614, 30), (1615, 1615, 31), (1616, 1616, 32), (1617, 1617, 33),
    (1618, 1618, 34), (1619, 1620, 230), (1621, 1622, 220), (1623, 1627, 230), (1628, 1628, 220),
    (1629, 1630, 230), (1631, 1631, 220), (1648, 1648, 35), (1750, 1756, 230), (1759, 1762, 230),
    (1763, 1763, 220), (1764, 1764, 230), (1767, 1768, 230), (1770, 1770, 220), (1771, 1772, 230),
    (1773, 1773, 220), (1809, 1809, 36), (1840, 1840, 230), (1841, 1841, 220), (1842, 1843, 230),
    (1844, 1844, 220), (1845, 1846, 230), (1847, 1849, 220), (1850, 1850, 230), (1851, 1852, 220),
    (1853, 1853, 230), (1854, 1854, 220), (1855, 1857, 230), (1858, 1858, 220), (1859, 1859, 230),
    (1860, 1860, 220), (1861, 1861, 230), (1862, 1862, 220), (1863, 1863, 230), (1864, 1864, 220),
    (1865, 1866, 230), (2027, 2033, 230), (2034, 2034, 220), (2035, 2035, 230), (2045, 2045, 220),
    (2070, 2073, 230), (2075, 2083, 230), (2085, 2087, 230), (2089, 2093, 230), (2137, 2139, 220),
    (2200, 2200, 230), (2201, 2203, 220), (2204, 2207, 230), (2250, 2254, 230), (2255, 2259, 220),
    (2260, 2273, 230), (2275, 2275, 220), (2276, 2277, 230), (2278, 2278, 220), (2279, 2280, 230),
    (2281, 2281, 220), (2282, 2284, 230), (2285, 2287, 220), (2288, 2288, 27), (2289, 2289, 28),
    (2290, 2290, 29), (2291, 2293, 230), (2294, 2294, 220), (2295, 2296, 230), (2297, 2298, 220),
    (2299, 2303, 230), (2364, 2364, 7), (2381, 2381, 9), (2385, 2385, 230), (2386, 2386, 220),
    (2387, 2388, 230), (2492, 2492, 7), (2509, 2509, 9), (2558, 2558, 230), (2620, 2620, 7),
    (2637, 2637, 9), (2748, 2748, 7), (2765, 2765, 9), (2876, 2876, 7), (2893, 2893, 9),
    (3021, 3021, 9), (3132, 3132, 7), (3149, 3149, 9), (3157, 3157, 84), (3158, 3158, 91),
    (3260, 3260, 7), (3277, 3277, 9), (3387, 3388, 9), (3405, 3405, 9), (3530, 3530, 9),
    (3640, 3641, 103), (3642, 3642, 9), (3656, 3659, 107), (3768, 3769, 118), (3770, 3770, 9),
    (3784, 3787, 122), (3864, 3865, 220), (3893, 3893, 220), (3895, 3895, 220), (3897, 3897, 216),
    (3953, 3953, 129), (3954, 3954, 130), (3956, 3956, 132), (3962, 3965, 130), (3968, 3968, 130),
    (3970, 3971, 230), (3972, 3972, 9), (3974, 3975, 230), (4038, 4038, 220), (4151, 4151, 7),
    (4153, 4154, 9), (4237, 4237, 220), (4957, 4959, 230), (5908, 5909, 9), (5940, 5940, 9),
    (6098, 6098, 9), (6109, 6109, 230), (6313, 6313, 228), (6457, 6457, 222), (6458, 6458, 230),
    (6459, 6459, 220), (6679, 6679, 230), (6680, 6680, 220), (6752, 6752, 9), (6773, 6780, 230),
    (6783, 6783, 220), (6832, 6836, 230), (6837, 6842, 220), (6843, 6844, 230), (6845, 6845, 220),
    (6847, 6848, 220), (6849, 6850, 230), (6851, 6852, 220), (6853, 6857, 230), (6858, 6858, 220),
    (6859, 6862, 230), (6964, 6964, 7), (6980, 6980, 9), (7019, 7019, 230), (7020, 7020, 220),
    (7021, 7027, 230), (7082, 7083, 9), (7142, 7142, 7), (7154, 7155, 9), (7223, 7223, 7),
    (7376, 7378, 230), (7380, 7380, 1), (7381, 7385, 220), (7386, 7387, 230), (7388, 7391, 220),
    (7392, 7392, 230), (7394, 7400, 1), (7405, 7405, 220), (7412, 7412, 230), (7416, 7417, 230),
    (7616, 7617, 230), (7618, 7618, 220), (7619, 7625, 230), (7626, 7626, 220), (7627, 7628, 230),
    (7629, 7629, 234), (7630, 7630, 214), (7631, 7631, 220), (7632, 7632, 202), (7633, 7669, 230),
    (7670, 7670, 232), (7671, 7672, 228), (7673, 7673, 220), (7674, 7674, 218), (7675, 7675, 230),
    (7676, 7676, 233), (7677, 7677, 220), (7678, 7678, 230), (7679, 7679, 220), (8400, 8401, 230),
    (8402, 8403, 1), (8404, 8407, 230), (8408, 8410, 1), (8411, 8412, 230), (8417, 8417, 230),
    (8421, 8422, 1), (8423, 8423, 230), (8424, 8424, 220), (8425, 8425, 230), (8426, 8427, 1),
    (8428, 8431, 220), (8432, 8432, 230), (11503, 11505, 230), (11647, 11647, 9),
    (11744, 11775, 230), (12330, 12330, 218), (12331, 12331, 228), (12332, 12332, 232),
    (12333, 12333, 222), (12334, 12335, 224), (12441, 12442, 8), (42607, 42607, 230),
    (42612, 42621, 230), (42654, 42655, 230), (42736, 42737, 230), (43014, 43014, 9),
    (43052, 43052, 9), (43204, 43204, 9), (43232, 43249, 230), (43307, 43309, 220),
    (43347, 43347, 9), (43443, 43443, 7), (43456, 43456, 9), (43696, 43696, 230),
    (43698, 43699, 230), (43700, 43700, 220), (43703, 43704, 230), (43710, 43711, 230),
    (43713, 43713, 230), (43766, 43766, 9), (44013, 44013, 9), (64286, 64286, 26),
    (65056, 65062, 230), (65063, 65069, 220), (65070, 65071, 230), (66045, 66045, 220),
    (66272, 66272, 220), (66422, 66426, 230), (68109, 68109, 220), (68111, 68111, 230),
    (68152, 68152, 230), (68153, 68153, 1), (68154, 68154, 220), (68159, 68159, 9),
    (68325, 68325, 230), (68326, 68326, 220), (68900, 68903, 230), (69291, 69292, 230),
    (69446, 69447, 220), (69448, 69450, 230), (69451, 69451, 220), (69452, 69452, 230),
    (69453, 69456, 220), (69506, 69506, 230), (69507, 69507, 220), (69508, 69508, 230),
    (69509, 69509, 220), (69702, 69702, 9), (69744, 69744, 9), (69759, 69759, 9), (69817, 69817, 9),
    (69818, 69818, 7), (69888, 69890, 230), (69939, 69940, 9), (70003, 70003, 7), (70080, 70080, 9),
    (70090, 70090, 7), (70197, 70197, 9), (70198, 70198, 7), (70377, 70377, 7), (70378, 70378, 9),
    (70459, 70460, 7), (70477, 70477, 9), (70502, 70508, 230), (70512, 70516, 230),
    (70722, 70722, 9), (70726, 70726, 7), (70750, 70750, 230), (70850, 70850, 9), (70851, 70851, 7),
    (71103, 71103, 9), (71104, 71104, 7), (71231, 71231, 9), (71350, 71350, 9), (71351, 71351, 7),
    (71467, 71467, 9), (71737, 71737, 9), (71738, 71738, 7), (71997, 71998, 9), (72003, 72003, 7),
    (72160, 72160, 9), (72244, 72244, 9), (72263, 72263, 9), (72345, 72345, 9), (72767, 72767, 9),
    (73026, 73026, 7), (73028, 73029, 9), (73111, 73111, 9), (92912, 92916, 1), (92976, 92982, 230),
    (94192, 94193, 6), (113822, 113822, 1), (119141, 119142, 216), (119143, 119145, 1),
    (119149, 119149, 226), (119150, 119154, 216), (119163, 119170, 220), (119173, 119177, 230),
    (119178, 119179, 220), (119210, 119213, 230), (119362, 119364, 230), (122880, 122886, 230),
    (122888, 122904, 230), (122907, 122913, 230), (122915, 122916, 230), (122918, 122922, 230),
    (123184, 123190, 230), (123566, 123566, 230), (123628, 123631, 230), (125136, 125142, 220),
    (125252, 125257, 230), (125258, 125258, 7)]

/-- The characters that no name has: blanks, controls, private ones and some signs. -/
def forbiddenRanges : List (Nat × Nat) :=
   [(128, 160), (832, 833), (1757, 1757), (1807, 1807), (5760, 5760), (6158, 6158), (8192, 8207),
    (8232, 8239), (8287, 8291), (8298, 8303), (12272, 12283), (12288, 12288), (57344, 63743),
    (64976, 65007), (65279, 65279), (65529, 65535), (119155, 119162), (131070, 131071),
    (196606, 196607), (262142, 262143), (327678, 327679), (393214, 393215), (458750, 458751),
    (524286, 524287), (589822, 589823), (655358, 655359), (720894, 720895), (786430, 786431),
    (851966, 851967), (917502, 917503), (917505, 917505), (917536, 917631), (983038, 1114111)]

/-- The characters that are read from right to left. -/
def rightToLeftRanges : List (Nat × Nat) :=
   [(1470, 1470), (1472, 1472), (1475, 1475), (1488, 1514), (1520, 1524), (1563, 1563),
    (1567, 1567), (1569, 1594), (1600, 1610), (1645, 1647), (1649, 1749), (1757, 1757),
    (1765, 1766), (1786, 1790), (1792, 1805), (1808, 1808), (1810, 1836), (1920, 1957),
    (1969, 1969), (8207, 8207), (64285, 64285), (64287, 64296), (64298, 64310), (64312, 64316),
    (64318, 64318), (64320, 64321), (64323, 64324), (64326, 64433), (64467, 64829), (64848, 64911),
    (64914, 64967), (65008, 65020), (65136, 65140), (65142, 65276)]

/-- The characters that are read from left to right. -/
def leftToRightRanges : List (Nat × Nat) :=
   [(65, 90), (97, 122), (170, 170), (181, 181), (186, 186), (192, 214), (216, 246), (248, 544),
    (546, 563), (592, 685), (688, 696), (699, 705), (720, 721), (736, 740), (750, 750), (890, 890),
    (902, 902), (904, 906), (908, 908), (910, 929), (931, 974), (976, 1013), (1024, 1154),
    (1162, 1230), (1232, 1269), (1272, 1273), (1280, 1295), (1329, 1366), (1369, 1375),
    (1377, 1415), (1417, 1417), (2307, 2307), (2309, 2361), (2365, 2368), (2377, 2380),
    (2384, 2384), (2392, 2401), (2404, 2416), (2434, 2435), (2437, 2444), (2447, 2448),
    (2451, 2472), (2474, 2480), (2482, 2482), (2486, 2489), (2494, 2496), (2503, 2504),
    (2507, 2508), (2519, 2519), (2524, 2525), (2527, 2529), (2534, 2545), (2548, 2554),
    (2565, 2570), (2575, 2576), (2579, 2600), (2602, 2608), (2610, 2611), (2613, 2614),
    (2616, 2617), (2622, 2624), (2649, 2652), (2654, 2654), (2662, 2671), (2674, 2676),
    (2691, 2691), (2693, 2699), (2701, 2701), (2703, 2705), (2707, 2728), (2730, 2736),
    (2738, 2739), (2741, 2745), (2749, 2752), (2761, 2761), (2763, 2764), (2768, 2768),
    (2784, 2784), (2790, 2799), (2818, 2819), (2821, 2828), (2831, 2832), (2835, 2856),
    (2858, 2864), (2866, 2867), (2870, 2873), (2877, 2878), (2880, 2880), (2887, 2888),
    (2891, 2892), (2903, 2903), (2908, 2909), (2911, 2913), (2918, 2928), (2947, 2947),
    (2949, 2954), (2958, 2960), (2962, 2965), (2969, 2970), (2972, 2972), (2974, 2975),
    (2979, 2980), (2984, 2986), (2990, 2997), (2999, 3001), (3006, 3007), (3009, 3010),
    (3014, 3016), (3018, 3020), (3031, 3031), (3047, 3058), (3073, 3075), (3077, 3084),
    (3086, 3088), (3090, 3112), (3114, 3123), (3125, 3129), (3137, 3140), (3168, 3169),
    (3174, 3183), (3202, 3203), (3205, 3212), (3214, 3216), (3218, 3240), (3242, 3251),
    (3253, 3257), (3262, 3262), (3264, 3268), (3271, 3272), (3274, 3275), (3285, 3286),
    (3294, 3294), (3296, 3297), (3302, 3311), (3330, 3331), (3333, 3340), (3342, 3344),
    (3346, 3368), (3370, 3385), (3390, 3392), (3398, 3400), (3402, 3404), (3415, 3415),
    (3424, 3425), (3430, 3439), (3458, 3459), (3461, 3478), (3482, 3505), (3507, 3515),
    (3517, 3517), (3520, 3526), (3535, 3537), (3544, 3551), (3570, 3572), (3585, 3632),
    (3634, 3635), (3648, 3654), (3663, 3675), (3713, 3714), (3716, 3716), (3719, 3720),
    (3722, 3722), (3725, 3725), (3732, 3735), (3737, 3743), (3745, 3747), (3749, 3749),
    (3751, 3751), (3754, 3755), (3757, 3760), (3762, 3763), (3773, 3773), (3776, 3780),
    (3782, 3782), (3792, 3801), (3804, 3805), (3840, 3863), (3866, 3892), (3894, 3894),
    (3896, 3896), (3902, 3911), (3913, 3946), (3967, 3967), (3973, 3973), (3976, 3979),
    (4030, 4037), (4039, 4044), (4047, 4047), (4096, 4129), (4131, 4135), (4137, 4138),
    (4140, 4140), (4145, 4145), (4152, 4152), (4160, 4183), (4256, 4293), (4304, 4344),
    (4347, 4347), (4352, 4441), (4447, 4514), (4520, 4601), (4608, 4614), (4616, 4678),
    (4680, 4680), (4682, 4685), (4688, 4694), (4696, 4696), (4698, 4701), (4704, 4742),
    (4744, 4744), (4746, 4749), (4752, 4782), (4784, 4784), (4786, 4789), (4792, 4798),
    (4800, 4800), (4802, 4805), (4808, 4814), (4816, 4822), (4824, 4846), (4848, 4878),
    (4880, 4880), (4882, 4885), (4888, 4894), (4896, 4934), (4936, 4954), (4961, 4988),
    (5024, 5108), (5121, 5750), (5761, 5786), (5792, 5872), (5888, 5900), (5902, 5905),
    (5920, 5937), (5941, 5942), (5952, 5969), (5984, 5996), (5998, 6000), (6016, 6070),
    (6078, 6085), (6087, 6088), (6100, 6106), (6108, 6108), (6112, 6121), (6160, 6169),
    (6176, 6263), (6272, 6312), (7680, 7835), (7840, 7929), (7936, 7957), (7960, 7965),
    (7968, 8005), (8008, 8013), (8016, 8023), (8025, 8025), (8027, 8027), (8029, 8029),
    (8031, 8061), (8064, 8116), (8118, 8124), (8126, 8126), (8130, 8132), (8134, 8140),
    (8144, 8147), (8150, 8155), (8160, 8172), (8178, 8180), (8182, 8188), (8206, 8206),
    (8305, 8305), (8319, 8319), (8450, 8450), (8455, 8455), (8458, 8467), (8469, 8469),
    (8473, 8477), (8484, 8484), (8486, 8486), (8488, 8488), (8490, 8493), (8495, 8497),
    (8499, 8505), (8509, 8511), (8517, 8521), (8544, 8579), (9014, 9082), (9109, 9109),
    (9372, 9449), (12293, 12295), (12321, 12329), (12337, 12341), (12344, 12348), (12353, 12438),
    (12445, 12447), (12449, 12538), (12540, 12543), (12549, 12588), (12593, 12686), (12688, 12727),
    (12784, 12828), (12832, 12867), (12896, 12923), (12927, 12976), (12992, 13003), (13008, 13054),
    (13056, 13174), (13179, 13277), (13280, 13310), (13312, 19893), (19968, 40869), (40960, 42124),
    (44032, 55203), (57344, 64045), (64048, 64106), (64256, 64262), (64275, 64279), (65313, 65338),
    (65345, 65370), (65382, 65470), (65474, 65479), (65482, 65487), (65490, 65495), (65498, 65500),
    (66304, 66334), (66336, 66339), (66352, 66378), (66560, 66597), (66600, 66637),
    (118784, 119029), (119040, 119078), (119082, 119142), (119146, 119154), (119171, 119172),
    (119180, 119209), (119214, 119261), (119808, 119892), (119894, 119964), (119966, 119967),
    (119970, 119970), (119973, 119974), (119977, 119980), (119982, 119993), (119995, 119995),
    (119997, 120000), (120002, 120003), (120005, 120069), (120071, 120074), (120077, 120084),
    (120086, 120092), (120094, 120121), (120123, 120126), (120128, 120132), (120134, 120134),
    (120138, 120144), (120146, 120483), (120488, 120777), (131072, 173782), (194560, 195101),
    (983040, 1048573), (1048576, 1114109)]

/-- The number that hexadecimal digits are. -/
def number (digits : List Char) : Nat :=
  digits.foldl (fun n c => n * 16 + (hexValue? c).getD 0) 0

/-- The words of a table that stand behind the code point at the start of a series, with that
code point. The words in front of the first series are left over. -/
def seriesOf : List (List Char) → List (List Char) × List (Nat × List (List Char))
  | [] => ([], [])
  | word :: rest =>
    let (words, found) := seriesOf rest
    if word.getLast? = some ':' then ([], (number word.dropLast, words) :: found)
    else (word :: words, found)

/-- The series of a table. -/
def series (table : List String) : List (Nat × List (List Char)) :=
  (seriesOf (table.flatMap fun line => splitAll (· = ' ') line.toList)).2

/-- What the characters of the table stand for: a code point with that of each neighbour. -/
def foldSeries : List (Nat × List (List Nat)) :=
  (series foldTable).map fun (first, words) =>
    (first, words.map fun word =>
      if word = ['-'] then [] else (splitAll (· = '+') word).map number)

/-- What characters become with a mark, by the mark. -/
def compositionSeries : List (Nat × List (Nat × Nat)) :=
  (series compositionTable).map fun (mark, words) =>
    (mark, words.map fun word =>
      let (letter, result) := splitFirst (· = '=') word
      (number letter, number (result.getD [])))

end ServiceClient.NameTable
