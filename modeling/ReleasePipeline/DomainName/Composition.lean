/-
The composed form of texts.

A character with marks can be written as one code point or as several, and marks that do not
touch each other can be written in any order. The composed form is the one among these
spellings in which marks are in order and everything is put together that can be. It is reached
by taking all characters apart, sorting the marks, and putting them together again. Korean
syllables are put together by arithmetic, everything else by a table.
-/
import ReleasePipeline.Text.CodePoints
import ReleasePipeline.Text.Hexadecimal

set_option autoImplicit false

namespace ReleasePipeline.DomainName

open Text (CodePointSet CodePointShift)

/-- Composed characters: each of them, and the two it is composed of. Only characters that a
name can hold are listed. -/
def compositions : List (List Nat) := Text.hexRows [
   "E0 61 300, E1 61 301, E2 61 302, E3 61 303, E4 61 308, E5 61 30A, E7 63 327, E8 65 300",
   "E9 65 301, EA 65 302, EB 65 308, EC 69 300, ED 69 301, EE 69 302, EF 69 308, F1 6E 303",
   "F2 6F 300, F3 6F 301, F4 6F 302, F5 6F 303, F6 6F 308, F9 75 300, FA 75 301, FB 75 302",
   "FC 75 308, FD 79 301, FF 79 308, 101 61 304, 103 61 306, 105 61 328, 107 63 301, 109 63 302",
   "10B 63 307, 10D 63 30C, 10F 64 30C, 113 65 304, 115 65 306, 117 65 307, 119 65 328, 11B 65 30C",
   "11D 67 302, 11F 67 306, 121 67 307, 123 67 327, 125 68 302, 129 69 303, 12B 69 304, 12D 69 306",
   "12F 69 328, 135 6A 302, 137 6B 327, 13A 6C 301, 13C 6C 327, 13E 6C 30C, 144 6E 301, 146 6E 327",
   "148 6E 30C, 14D 6F 304, 14F 6F 306, 151 6F 30B, 155 72 301, 157 72 327, 159 72 30C, 15B 73 301",
   "15D 73 302, 15F 73 327, 161 73 30C, 163 74 327, 165 74 30C, 169 75 303, 16B 75 304, 16D 75 306",
   "16F 75 30A, 171 75 30B, 173 75 328, 175 77 302, 177 79 302, 17A 7A 301, 17C 7A 307, 17E 7A 30C",
   "1A1 6F 31B, 1B0 75 31B, 1CE 61 30C, 1D0 69 30C, 1D2 6F 30C, 1D4 75 30C, 1D6 FC 304, 1D8 FC 301",
   "1DA FC 30C, 1DC FC 300, 1DF E4 304, 1E1 227 304, 1E3 E6 304, 1E7 67 30C, 1E9 6B 30C",
   "1EB 6F 328, 1ED 1EB 304, 1EF 292 30C, 1F0 6A 30C, 1F5 67 301, 1F9 6E 300, 1FB E5 301",
   "1FD E6 301, 1FF F8 301, 201 61 30F, 203 61 311, 205 65 30F, 207 65 311, 209 69 30F, 20B 69 311",
   "20D 6F 30F, 20F 6F 311, 211 72 30F, 213 72 311, 215 75 30F, 217 75 311, 219 73 326, 21B 74 326",
   "21F 68 30C, 227 61 307, 229 65 327, 22B F6 304, 22D F5 304, 22F 6F 307, 231 22F 304",
   "233 79 304, 390 3CA 301, 3AC 3B1 301, 3AD 3B5 301, 3AE 3B7 301, 3AF 3B9 301, 3B0 3CB 301",
   "3CA 3B9 308, 3CB 3C5 308, 3CC 3BF 301, 3CD 3C5 301, 3CE 3C9 301, 439 438 306, 450 435 300",
   "451 435 308, 453 433 301, 457 456 308, 45C 43A 301, 45D 438 300, 45E 443 306, 477 475 30F",
   "4C2 436 306, 4D1 430 306, 4D3 430 308, 4D7 435 306, 4DB 4D9 308, 4DD 436 308, 4DF 437 308",
   "4E3 438 304, 4E5 438 308, 4E7 43E 308, 4EB 4E9 308, 4ED 44D 308, 4EF 443 304, 4F1 443 308",
   "4F3 443 30B, 4F5 447 308, 4F9 44B 308, 622 627 653, 623 627 654, 624 648 654, 625 627 655",
   "626 64A 654, 6C0 6D5 654, 6C2 6C1 654, 6D3 6D2 654, 929 928 93C, 931 930 93C, 934 933 93C",
   "9CB 9C7 9BE, 9CC 9C7 9D7, B48 B47 B56, B4B B47 B3E, B4C B47 B57, B94 B92 BD7, BCA BC6 BBE",
   "BCB BC7 BBE, BCC BC6 BD7, C48 C46 C56, CC0 CBF CD5, CC7 CC6 CD5, CC8 CC6 CD6, CCA CC6 CC2",
   "CCB CCA CD5, D4A D46 D3E, D4B D47 D3E, D4C D46 D57, DDA DD9 DCA, DDC DD9 DCF, DDD DDC DCA",
   "DDE DD9 DDF, 1026 1025 102E, 1B06 1B05 1B35, 1B08 1B07 1B35, 1B0A 1B09 1B35, 1B0C 1B0B 1B35",
   "1B0E 1B0D 1B35, 1B12 1B11 1B35, 1B3B 1B3A 1B35, 1B3D 1B3C 1B35, 1B40 1B3E 1B35, 1B41 1B3F 1B35",
   "1B43 1B42 1B35, 1E01 61 325, 1E03 62 307, 1E05 62 323, 1E07 62 331, 1E09 E7 301, 1E0B 64 307",
   "1E0D 64 323, 1E0F 64 331, 1E11 64 327, 1E13 64 32D, 1E15 113 300, 1E17 113 301, 1E19 65 32D",
   "1E1B 65 330, 1E1D 229 306, 1E1F 66 307, 1E21 67 304, 1E23 68 307, 1E25 68 323, 1E27 68 308",
   "1E29 68 327, 1E2B 68 32E, 1E2D 69 330, 1E2F EF 301, 1E31 6B 301, 1E33 6B 323, 1E35 6B 331",
   "1E37 6C 323, 1E39 1E37 304, 1E3B 6C 331, 1E3D 6C 32D, 1E3F 6D 301, 1E41 6D 307, 1E43 6D 323",
   "1E45 6E 307, 1E47 6E 323, 1E49 6E 331, 1E4B 6E 32D, 1E4D F5 301, 1E4F F5 308, 1E51 14D 300",
   "1E53 14D 301, 1E55 70 301, 1E57 70 307, 1E59 72 307, 1E5B 72 323, 1E5D 1E5B 304, 1E5F 72 331",
   "1E61 73 307, 1E63 73 323, 1E65 15B 307, 1E67 161 307, 1E69 1E63 307, 1E6B 74 307, 1E6D 74 323",
   "1E6F 74 331, 1E71 74 32D, 1E73 75 324, 1E75 75 330, 1E77 75 32D, 1E79 169 301, 1E7B 16B 308",
   "1E7D 76 303, 1E7F 76 323, 1E81 77 300, 1E83 77 301, 1E85 77 308, 1E87 77 307, 1E89 77 323",
   "1E8B 78 307, 1E8D 78 308, 1E8F 79 307, 1E91 7A 302, 1E93 7A 323, 1E95 7A 331, 1E96 68 331",
   "1E97 74 308, 1E98 77 30A, 1E99 79 30A, 1EA1 61 323, 1EA3 61 309, 1EA5 E2 301, 1EA7 E2 300",
   "1EA9 E2 309, 1EAB E2 303, 1EAD 1EA1 302, 1EAF 103 301, 1EB1 103 300, 1EB3 103 309",
   "1EB5 103 303, 1EB7 1EA1 306, 1EB9 65 323, 1EBB 65 309, 1EBD 65 303, 1EBF EA 301, 1EC1 EA 300",
   "1EC3 EA 309, 1EC5 EA 303, 1EC7 1EB9 302, 1EC9 69 309, 1ECB 69 323, 1ECD 6F 323, 1ECF 6F 309",
   "1ED1 F4 301, 1ED3 F4 300, 1ED5 F4 309, 1ED7 F4 303, 1ED9 1ECD 302, 1EDB 1A1 301, 1EDD 1A1 300",
   "1EDF 1A1 309, 1EE1 1A1 303, 1EE3 1A1 323, 1EE5 75 323, 1EE7 75 309, 1EE9 1B0 301, 1EEB 1B0 300",
   "1EED 1B0 309, 1EEF 1B0 303, 1EF1 1B0 323, 1EF3 79 300, 1EF5 79 323, 1EF7 79 309, 1EF9 79 303",
   "1F00 3B1 313, 1F01 3B1 314, 1F02 1F00 300, 1F03 1F01 300, 1F04 1F00 301, 1F05 1F01 301",
   "1F06 1F00 342, 1F07 1F01 342, 1F10 3B5 313, 1F11 3B5 314, 1F12 1F10 300, 1F13 1F11 300",
   "1F14 1F10 301, 1F15 1F11 301, 1F20 3B7 313, 1F21 3B7 314, 1F22 1F20 300, 1F23 1F21 300",
   "1F24 1F20 301, 1F25 1F21 301, 1F26 1F20 342, 1F27 1F21 342, 1F30 3B9 313, 1F31 3B9 314",
   "1F32 1F30 300, 1F33 1F31 300, 1F34 1F30 301, 1F35 1F31 301, 1F36 1F30 342, 1F37 1F31 342",
   "1F40 3BF 313, 1F41 3BF 314, 1F42 1F40 300, 1F43 1F41 300, 1F44 1F40 301, 1F45 1F41 301",
   "1F50 3C5 313, 1F51 3C5 314, 1F52 1F50 300, 1F53 1F51 300, 1F54 1F50 301, 1F55 1F51 301",
   "1F56 1F50 342, 1F57 1F51 342, 1F60 3C9 313, 1F61 3C9 314, 1F62 1F60 300, 1F63 1F61 300",
   "1F64 1F60 301, 1F65 1F61 301, 1F66 1F60 342, 1F67 1F61 342, 1F70 3B1 300, 1F72 3B5 300",
   "1F74 3B7 300, 1F76 3B9 300, 1F78 3BF 300, 1F7A 3C5 300, 1F7C 3C9 300, 1FB0 3B1 306",
   "1FB1 3B1 304, 1FB6 3B1 342, 1FC6 3B7 342, 1FD0 3B9 306, 1FD1 3B9 304, 1FD2 3CA 300",
   "1FD6 3B9 342, 1FD7 3CA 342, 1FE0 3C5 306, 1FE1 3C5 304, 1FE2 3CB 300, 1FE4 3C1 313",
   "1FE5 3C1 314, 1FE6 3C5 342, 1FE7 3CB 342, 1FF6 3C9 342, 219A 2190 338, 219B 2192 338",
   "21AE 2194 338, 21CD 21D0 338, 21CE 21D4 338, 21CF 21D2 338, 2204 2203 338, 2209 2208 338",
   "220C 220B 338, 2224 2223 338, 2226 2225 338, 2241 223C 338, 2244 2243 338, 2247 2245 338",
   "2249 2248 338, 2260 3D 338, 2262 2261 338, 226D 224D 338, 226E 3C 338, 226F 3E 338",
   "2270 2264 338, 2271 2265 338, 2274 2272 338, 2275 2273 338, 2278 2276 338, 2279 2277 338",
   "2280 227A 338, 2281 227B 338, 2284 2282 338, 2285 2283 338, 2288 2286 338, 2289 2287 338",
   "22AC 22A2 338, 22AD 22A8 338, 22AE 22A9 338, 22AF 22AB 338, 22E0 227C 338, 22E1 227D 338",
   "22E2 2291 338, 22E3 2292 338, 22EA 22B2 338, 22EB 22B3 338, 22EC 22B4 338, 22ED 22B5 338",
   "304C 304B 3099, 304E 304D 3099, 3050 304F 3099, 3052 3051 3099, 3054 3053 3099, 3056 3055 3099",
   "3058 3057 3099, 305A 3059 3099, 305C 305B 3099, 305E 305D 3099, 3060 305F 3099, 3062 3061 3099",
   "3065 3064 3099, 3067 3066 3099, 3069 3068 3099, 3070 306F 3099, 3071 306F 309A, 3073 3072 3099",
   "3074 3072 309A, 3076 3075 3099, 3077 3075 309A, 3079 3078 3099, 307A 3078 309A, 307C 307B 3099",
   "307D 307B 309A, 3094 3046 3099, 309E 309D 3099, 30AC 30AB 3099, 30AE 30AD 3099, 30B0 30AF 3099",
   "30B2 30B1 3099, 30B4 30B3 3099, 30B6 30B5 3099, 30B8 30B7 3099, 30BA 30B9 3099, 30BC 30BB 3099",
   "30BE 30BD 3099, 30C0 30BF 3099, 30C2 30C1 3099, 30C5 30C4 3099, 30C7 30C6 3099, 30C9 30C8 3099",
   "30D0 30CF 3099, 30D1 30CF 309A, 30D3 30D2 3099, 30D4 30D2 309A, 30D6 30D5 3099, 30D7 30D5 309A",
   "30D9 30D8 3099, 30DA 30D8 309A, 30DC 30DB 3099, 30DD 30DB 309A, 30F4 30A6 3099, 30F7 30EF 3099",
   "30F8 30F0 3099, 30F9 30F1 3099, 30FA 30F2 3099, 30FE 30FD 3099, 105C9 105D2 307",
   "105E4 105DA 307, 1109A 11099 110BA, 1109C 1109B 110BA, 110AB 110A5 110BA, 1112E 11131 11127",
   "1112F 11132 11127, 1134B 11347 1133E, 1134C 11347 11357, 11383 11382 113C9, 11385 11384 113BB",
   "1138E 1138B 113C2, 11391 11390 113C9, 113C5 113C2 113C2, 113C7 113C2 113B8, 113C8 113C2 113C9",
   "114BB 114B9 114BA, 114BC 114B9 114B0, 114BE 114B9 114BD, 115BA 115B8 115AF, 115BB 115B9 115AF",
   "11938 11935 11930, 16121 1611E 1611E, 16122 1611E 16129, 16123 1611E 1611F, 16124 16129 1611F",
   "16125 1611E 16120, 16126 16121 1611F, 16127 16122 1611F, 16128 16121 16120, 16D68 16D67 16D67",
   "16D69 16D63 16D67, 16D6A 16D69 16D67"]

/-- The order of marks: the first of some neighbouring marks, how many they are, and their rank.
A character that is not listed has no rank. -/
def ranks : List (List Nat) := Text.hexRows [
   "300 15 E6, 315 1 E8, 316 4 DC, 31A 1 E8, 31B 1 D8, 31C 5 DC, 321 2 CA, 323 4 DC, 327 2 CA",
   "329 B DC, 334 5 1, 339 4 DC, 33D A E6, 347 3 DC, 34A 3 E6, 34D 2 DC, 350 3 E6, 353 4 DC",
   "357 1 E6, 358 1 E8, 359 2 DC, 35B 1 E6, 35C 1 E9, 35D 2 EA, 35F 1 E9, 360 2 EA, 362 1 E9",
   "363 D E6, 483 5 E6, 591 1 DC, 592 4 E6, 596 1 DC, 597 3 E6, 59A 1 DE, 59B 1 DC, 59C 6 E6",
   "5A2 6 DC, 5A8 2 E6, 5AA 1 DC, 5AB 2 E6, 5AD 1 DE, 5AE 1 E4, 5AF 1 E6, 5B0 1 A, 5B1 1 B",
   "5B2 1 C, 5B3 1 D, 5B4 1 E, 5B5 1 F, 5B6 1 10, 5B7 1 11, 5B8 1 12, 5B9 2 13, 5BB 1 14, 5BC 1 15",
   "5BD 1 16, 5BF 1 17, 5C1 1 18, 5C2 1 19, 5C4 1 E6, 5C5 1 DC, 5C7 1 12, 610 8 E6, 618 1 1E",
   "619 1 1F, 61A 1 20, 64B 1 1B, 64C 1 1C, 64D 1 1D, 64E 1 1E, 64F 1 1F, 650 1 20, 651 1 21",
   "652 1 22, 653 2 E6, 655 2 DC, 657 5 E6, 65C 1 DC, 65D 2 E6, 65F 1 DC, 670 1 23, 6D6 7 E6",
   "6DF 4 E6, 6E3 1 DC, 6E4 1 E6, 6E7 2 E6, 6EA 1 DC, 6EB 2 E6, 6ED 1 DC, 711 1 24, 730 1 E6",
   "731 1 DC, 732 2 E6, 734 1 DC, 735 2 E6, 737 3 DC, 73A 1 E6, 73B 2 DC, 73D 1 E6, 73E 1 DC",
   "73F 3 E6, 742 1 DC, 743 1 E6, 744 1 DC, 745 1 E6, 746 1 DC, 747 1 E6, 748 1 DC, 749 2 E6",
   "7EB 7 E6, 7F2 1 DC, 7F3 1 E6, 7FD 1 DC, 816 4 E6, 81B 9 E6, 825 3 E6, 829 5 E6, 859 3 DC",
   "897 2 E6, 899 3 DC, 89C 4 E6, 8CA 5 E6, 8CF 5 DC, 8D4 E E6, 8E3 1 DC, 8E4 2 E6, 8E6 1 DC",
   "8E7 2 E6, 8E9 1 DC, 8EA 3 E6, 8ED 3 DC, 8F0 1 1B, 8F1 1 1C, 8F2 1 1D, 8F3 3 E6, 8F6 1 DC",
   "8F7 2 E6, 8F9 2 DC, 8FB 5 E6, 93C 1 7, 94D 1 9, 951 1 E6, 952 1 DC, 953 2 E6, 9BC 1 7, 9CD 1 9",
   "9FE 1 E6, A3C 1 7, A4D 1 9, ABC 1 7, ACD 1 9, B3C 1 7, B4D 1 9, BCD 1 9, C3C 1 7, C4D 1 9",
   "C55 1 54, C56 1 5B, CBC 1 7, CCD 1 9, D3B 2 9, D4D 1 9, DCA 1 9, E38 2 67, E3A 1 9, E48 4 6B",
   "EB8 2 76, EBA 1 9, EC8 4 7A, F18 2 DC, F35 1 DC, F37 1 DC, F39 1 D8, F71 1 81, F72 1 82",
   "F74 1 84, F7A 4 82, F80 1 82, F82 2 E6, F84 1 9, F86 2 E6, FC6 1 DC, 1037 1 7, 1039 2 9",
   "108D 1 DC, 135D 3 E6, 1714 2 9, 1734 1 9, 17D2 1 9, 17DD 1 E6, 18A9 1 E4, 1939 1 DE, 193A 1 E6",
   "193B 1 DC, 1A17 1 E6, 1A18 1 DC, 1A60 1 9, 1A75 8 E6, 1A7F 1 DC, 1AB0 5 E6, 1AB5 6 DC",
   "1ABB 2 E6, 1ABD 1 DC, 1ABF 2 DC, 1AC1 2 E6, 1AC3 2 DC, 1AC5 5 E6, 1ACA 1 DC, 1ACB 12 E6",
   "1ADD 1 DC, 1AE0 6 E6, 1AE6 1 DC, 1AE7 4 E6, 1AEB 1 EA, 1B34 1 7, 1B44 1 9, 1B6B 1 E6",
   "1B6C 1 DC, 1B6D 7 E6, 1BAA 2 9, 1BE6 1 7, 1BF2 2 9, 1C37 1 7, 1CD0 3 E6, 1CD4 1 1, 1CD5 5 DC",
   "1CDA 2 E6, 1CDC 4 DC, 1CE0 1 E6, 1CE2 7 1, 1CED 1 DC, 1CF4 1 E6, 1CF8 2 E6, 1DC0 2 E6",
   "1DC2 1 DC, 1DC3 7 E6, 1DCA 1 DC, 1DCB 2 E6, 1DCD 1 EA, 1DCE 1 D6, 1DCF 1 DC, 1DD0 1 CA",
   "1DD1 25 E6, 1DF6 1 E8, 1DF7 2 E4, 1DF9 1 DC, 1DFA 1 DA, 1DFB 1 E6, 1DFC 1 E9, 1DFD 1 DC",
   "1DFE 1 E6, 1DFF 1 DC, 20D0 2 E6, 20D2 2 1, 20D4 4 E6, 20D8 3 1, 20DB 2 E6, 20E1 1 E6, 20E5 2 1",
   "20E7 1 E6, 20E8 1 DC, 20E9 1 E6, 20EA 2 1, 20EC 4 DC, 20F0 1 E6, 2CEF 3 E6, 2D7F 1 9",
   "2DE0 20 E6, 302A 1 DA, 302B 1 E4, 302C 1 E8, 302D 1 DE, 302E 2 E0, 3099 2 8, A66F 1 E6",
   "A674 A E6, A69E 2 E6, A6F0 2 E6, A806 1 9, A82C 1 9, A8C4 1 9, A8E0 12 E6, A92B 3 DC, A953 1 9",
   "A9B3 1 7, A9C0 1 9, AAB0 1 E6, AAB2 2 E6, AAB4 1 DC, AAB7 2 E6, AABE 2 E6, AAC1 1 E6, AAF6 1 9",
   "ABED 1 9, FB1E 1 1A, FE20 7 E6, FE27 7 DC, FE2E 2 E6, 101FD 1 DC, 102E0 1 DC, 10376 5 E6",
   "10A0D 1 DC, 10A0F 1 E6, 10A38 1 E6, 10A39 1 1, 10A3A 1 DC, 10A3F 1 9, 10AE5 1 E6, 10AE6 1 DC",
   "10D24 4 E6, 10D69 5 E6, 10EAB 2 E6, 10EFA 2 DC, 10EFD 3 DC, 10F46 2 DC, 10F48 3 E6, 10F4B 1 DC",
   "10F4C 1 E6, 10F4D 4 DC, 10F82 1 E6, 10F83 1 DC, 10F84 1 E6, 10F85 1 DC, 11046 1 9, 11070 1 9",
   "1107F 1 9, 110B9 1 9, 110BA 1 7, 11100 3 E6, 11133 2 9, 11173 1 7, 111C0 1 9, 111CA 1 7",
   "11235 1 9, 11236 1 7, 112E9 1 7, 112EA 1 9, 1133B 2 7, 1134D 1 9, 11366 F E6, 113CE 3 9",
   "11442 1 9, 11446 1 7, 1145E 1 E6, 114C2 1 9, 114C3 1 7, 115BF 1 9, 115C0 1 7, 1163F 1 9",
   "116B6 1 9, 116B7 1 7, 1172B 1 9, 11839 1 9, 1183A 1 7, 1193D 2 9, 11943 1 7, 119E0 1 9",
   "11A34 1 9, 11A47 1 9, 11A99 1 9, 11C3F 1 9, 11D42 1 7, 11D44 2 9, 11D97 1 9, 11F41 2 9",
   "1612F 1 9, 16AF0 5 1, 16B30 7 E6, 16FF0 2 6, 1BC9E 1 1, 1D165 2 D8, 1D167 3 1, 1D16D 1 E2",
   "1D16E 5 D8, 1D17B 8 DC, 1D185 5 E6, 1D18A 2 DC, 1D1AA 4 E6, 1D242 3 E6, 1E000 90 E6",
   "1E130 7 E6, 1E2AE 1 E6, 1E2EC 4 E6, 1E4EC 2 E8, 1E4EE 1 DC, 1E4EF 1 E6, 1E5EE 1 E6, 1E5EF 1 DC",
   "1E6E3 1 E6, 1E6E6 1 E6, 1E6EE 2 E6, 1E6F5 1 E6, 1E8D0 7 DC, 1E944 6 E6, 1E94A 1 7"]

/-- The rank of a mark by rows of a table; `0` if there is none. -/
def rankIn (n : Nat) : List (List Nat) → Nat
  | [] => 0
  | [first, count, rank] :: rest =>
    if first ≤ n && n < first + count then rank else rankIn n rest
  | _ :: rest => rankIn n rest

/-- The rank of a character among marks; a character without a rank stays where it is. -/
def rank (c : Char) : Nat := rankIn c.toNat ranks

/-! ## Korean syllables -/

/-- The first syllable. -/
def firstSyllable : Nat := 0xAC00

/-- The first of the letters that begin a syllable, and how many they are. -/
def leadingLetters : Nat × Nat := (0x1100, 19)

/-- The first of the vowels of syllables, and how many they are. -/
def vowelLetters : Nat × Nat := (0x1161, 21)

/-- The code point before the first of the letters that end a syllable, and how many choices
there are, one of which is to have no such letter. -/
def trailingLetters : Nat × Nat := (0x11A7, 28)

/-- The number of syllables that begin with one letter. -/
def syllablesOfLetter : Nat := vowelLetters.2 * trailingLetters.2

/-- The letters of a syllable. -/
def syllableLetters? (c : Char) : Option (List Char) :=
  let n := c.toNat - firstSyllable
  if firstSyllable ≤ c.toNat && n < leadingLetters.2 * syllablesOfLetter then
    let leading := Char.ofNat (leadingLetters.1 + n / syllablesOfLetter)
    let vowel := Char.ofNat (vowelLetters.1 + n % syllablesOfLetter / trailingLetters.2)
    let trailing := n % trailingLetters.2
    some (leading :: vowel ::
      if trailing = 0 then [] else [Char.ofNat (trailingLetters.1 + trailing)])
  else none

/-- The syllable of two letters, or of a syllable and the letter that ends it. -/
def syllable? (a b : Char) : Option Char :=
  let leading := a.toNat - leadingLetters.1
  let vowel := b.toNat - vowelLetters.1
  let open? := a.toNat - firstSyllable
  let trailing := b.toNat - trailingLetters.1
  if leadingLetters.1 ≤ a.toNat && leading < leadingLetters.2
      && vowelLetters.1 ≤ b.toNat && vowel < vowelLetters.2 then
    some (Char.ofNat
      (firstSyllable + leading * syllablesOfLetter + vowel * trailingLetters.2))
  else if firstSyllable ≤ a.toNat && open? < leadingLetters.2 * syllablesOfLetter
      && open? % trailingLetters.2 = 0
      && trailingLetters.1 < b.toNat && trailing < trailingLetters.2 then
    some (Char.ofNat (a.toNat + trailing))
  else none

/-! ## Taking apart -/

/-- The two characters that one is composed of, by rows of a table. -/
def partsIn? (n : Nat) : List (List Nat) → Option (Nat × Nat)
  | [] => none
  | [composed, a, b] :: rest => if composed = n then some (a, b) else partsIn? n rest
  | _ :: rest => partsIn? n rest

/-- How often a character can be taken apart: none has more than three marks. -/
def maxMarks : Nat := 3

/-- Takes a character apart, at most so many times. -/
def takeApart : Nat → Char → List Char
  | 0, c => [c]
  | depth + 1, c =>
    match partsIn? c.toNat compositions with
    | some (a, b) => takeApart depth (Char.ofNat a) ++ [Char.ofNat b]
    | none => [c]

/-- The characters that one is composed of. -/
def parts (c : Char) : List Char :=
  match syllableLetters? c with
  | some letters => letters
  | none => takeApart maxMarks c

/-! ## Sorting marks -/

/-- Puts a character in front of sorted ones: behind the marks that have a smaller rank. -/
def insertByRank (c : Char) : List Char → List Char
  | [] => [c]
  | d :: ds =>
    if 0 < rank d && rank d < rank c then d :: insertByRank c ds else c :: d :: ds

/-- Sorts the marks between any two characters without a rank. -/
def sortMarks (cs : List Char) : List Char := cs.foldr insertByRank []

/-! ## Putting together -/

/-- The character composed of two, by rows of a table. -/
def composedIn? (a b : Nat) : List (List Nat) → Option Nat
  | [] => none
  | [composed, x, y] :: rest => if x = a ∧ y = b then some composed else composedIn? a b rest
  | _ :: rest => composedIn? a b rest

/-- The character composed of two. -/
def composed? (a b : Char) : Option Char :=
  match syllable? a b with
  | some c => some c
  | none => (composedIn? a.toNat b.toNat compositions).map Char.ofNat

/-- Puts sorted characters together. `base` is the last character without a rank, and `waiting`
are the marks behind it that could not be put together with it, the last one first. A mark reaches
the base unless a mark of its rank or above stands between. -/
def putTogether (base : Char) (waiting : List Char) : List Char → List Char
  | [] => base :: waiting.reverse
  | c :: cs =>
    let reaches := match waiting with
      | [] => true
      | last :: _ => rank last < rank c
    match if reaches then composed? base c else none with
    | some composed => putTogether composed waiting cs
    | none =>
      if rank c = 0 then base :: (waiting.reverse ++ putTogether c [] cs)
      else putTogether base (c :: waiting) cs

/-- Puts sorted characters together; marks in front of the first character without a rank stay. -/
def compose : List Char → List Char
  | [] => []
  | c :: cs => if rank c = 0 then putTogether c [] cs else c :: compose cs

/-- The composed form of a text. -/
def composedForm (cs : List Char) : List Char := compose (sortMarks (cs.flatMap parts))

end ReleasePipeline.DomainName
