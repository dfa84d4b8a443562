/-
The characters of domain names.

Some characters no name may be written with (`refused`), and some are passed over wherever they
stand. Marks belong to the character before them, so no label begins with one. The sets are those of
the current tables for internationalized names, written as the lengths of their gaps and stretches
in turn.
-/
import ReleasePipeline.Text.CodePoints

set_option autoImplicit false

namespace ReleasePipeline.DomainName

open Text (CodePointSet CodePointShift)

/-- Code points that no name may be written with: controls of other scripts, private use, and
those that stand for nothing yet. -/
def refused : CodePointSet where
  stretches := [
   128, 32, 728, 2, 6, 4, 7, 1, 1, 1, 20, 1, 397, 1, 38, 2, 50, 2, 3, 1, 55, 8, 27, 4, 6, 17, 22, 1,
   192, 1, 48, 2, 59, 2, 101, 14, 59, 2, 49, 2, 15, 1, 28, 2, 1, 1, 11, 5, 32, 7, 75, 1, 161, 1, 8,
   2, 2, 2, 22, 1, 7, 1, 1, 3, 4, 2, 9, 2, 2, 2, 4, 8, 1, 4, 2, 1, 5, 2, 25, 2, 3, 1, 6, 4, 2, 2,
   22, 1, 7, 1, 2, 1, 2, 1, 2, 2, 1, 1, 5, 4, 2, 2, 3, 3, 1, 7, 4, 1, 1, 7, 17, 10, 3, 1, 9, 1, 3,
   1, 22, 1, 7, 1, 2, 1, 5, 2, 10, 1, 3, 1, 3, 2, 1, 15, 4, 2, 12, 7, 7, 1, 3, 1, 8, 2, 2, 2, 22, 1,
   7, 1, 2, 1, 5, 2, 9, 2, 2, 2, 3, 7, 3, 4, 2, 1, 5, 2, 18, 10, 2, 1, 6, 3, 3, 1, 4, 3, 2, 1, 1, 1,
   2, 3, 2, 3, 3, 3, 12, 4, 5, 3, 3, 1, 4, 2, 1, 6, 1, 14, 21, 5, 13, 1, 3, 1, 23, 1, 16, 2, 9, 1,
   3, 1, 4, 7, 2, 1, 3, 1, 2, 2, 4, 2, 10, 7, 22, 1, 3, 1, 23, 1, 10, 1, 5, 2, 9, 1, 3, 1, 4, 7, 2,
   5, 3, 1, 4, 2, 10, 1, 3, 12, 13, 1, 3, 1, 51, 1, 3, 1, 6, 4, 16, 2, 26, 1, 3, 1, 18, 3, 24, 1, 9,
   1, 1, 2, 7, 3, 1, 4, 6, 1, 1, 1, 8, 6, 10, 2, 3, 12, 58, 4, 29, 37, 2, 1, 1, 1, 5, 1, 24, 1, 1,
   1, 23, 2, 5, 1, 1, 1, 7, 1, 10, 2, 4, 32, 72, 1, 36, 4, 39, 1, 36, 1, 15, 1, 13, 37, 198, 1, 1,
   5, 1, 2, 377, 1, 4, 2, 7, 1, 1, 1, 4, 2, 41, 1, 4, 2, 33, 1, 4, 2, 7, 1, 1, 1, 4, 2, 15, 1, 57,
   1, 4, 2, 67, 2, 32, 3, 26, 6, 86, 2, 6, 2, 640, 1, 28, 3, 89, 7, 22, 9, 24, 9, 20, 12, 13, 1, 3,
   1, 2, 12, 94, 2, 10, 6, 10, 6, 26, 6, 89, 7, 43, 5, 70, 10, 31, 1, 12, 4, 12, 4, 1, 3, 42, 2, 5,
   11, 44, 4, 26, 6, 11, 3, 62, 2, 65, 1, 29, 2, 11, 6, 10, 6, 14, 2, 46, 2, 12, 20, 77, 1, 166, 8,
   60, 3, 15, 3, 62, 5, 43, 2, 11, 8, 43, 5, 534, 2, 6, 2, 38, 2, 6, 2, 8, 1, 1, 1, 1, 1, 1, 1, 31,
   2, 53, 1, 15, 1, 14, 2, 6, 1, 19, 2, 3, 1, 9, 1, 14, 2, 20, 3, 1, 7, 54, 5, 8, 2, 27, 1, 13, 3,
   34, 14, 33, 15, 140, 4, 666, 22, 11, 21, 40, 20, 1752, 2, 382, 5, 45, 1, 1, 5, 1, 2, 56, 7, 2,
   14, 24, 9, 7, 1, 7, 1, 7, 1, 7, 1, 7, 1, 7, 1, 7, 1, 7, 1, 126, 34, 26, 1, 89, 12, 214, 42, 64,
   1, 86, 2, 103, 5, 43, 1, 94, 1, 86, 10, 47, 1, 418, 1, 4, 1, 16, 1, 28852, 3, 55, 9, 348, 20,
   184, 8, 221, 20, 60, 3, 10, 6, 56, 8, 70, 8, 12, 6, 116, 11, 30, 3, 78, 1, 11, 4, 33, 1, 55, 9,
   14, 2, 10, 2, 103, 24, 28, 10, 6, 2, 6, 2, 6, 9, 7, 1, 7, 1, 60, 4, 126, 2, 10, 6, 11172, 12, 23,
   4, 49, 8452, 366, 2, 106, 38, 7, 12, 5, 5, 26, 1, 5, 1, 1, 1, 2, 1, 2, 1, 650, 32, 34, 1, 6, 7,
   16, 1, 33, 2, 19, 1, 4, 4, 5, 1, 135, 2, 1, 1, 190, 3, 6, 2, 6, 2, 6, 2, 3, 3, 7, 1, 7, 17, 12,
   1, 26, 1, 19, 1, 2, 1, 15, 2, 14, 34, 123, 5, 3, 4, 45, 3, 88, 1, 13, 3, 1, 47, 46, 130, 29, 3,
   49, 15, 28, 4, 36, 9, 30, 5, 43, 5, 30, 1, 37, 4, 14, 42, 158, 2, 10, 6, 36, 4, 36, 4, 40, 8, 52,
   11, 12, 1, 15, 1, 7, 1, 2, 1, 11, 1, 15, 1, 7, 1, 2, 3, 52, 12, 311, 9, 22, 10, 8, 24, 6, 1, 42,
   1, 9, 69, 6, 2, 1, 1, 44, 1, 2, 3, 1, 2, 23, 1, 72, 8, 9, 48, 19, 1, 2, 5, 33, 3, 27, 5, 27, 38,
   56, 4, 20, 2, 50, 1, 2, 5, 8, 1, 3, 1, 29, 2, 3, 4, 10, 7, 9, 7, 64, 32, 39, 4, 12, 9, 54, 3, 29,
   2, 27, 5, 26, 7, 4, 12, 7, 80, 73, 55, 51, 13, 51, 7, 46, 8, 10, 6, 38, 3, 29, 8, 2, 208, 31, 1,
   42, 1, 3, 2, 2, 16, 6, 8, 9, 33, 46, 8, 42, 22, 26, 38, 28, 20, 23, 9, 78, 4, 36, 9, 62, 1, 5,
   13, 25, 7, 10, 6, 53, 1, 18, 8, 39, 9, 96, 1, 20, 11, 18, 1, 47, 62, 7, 1, 1, 1, 4, 1, 15, 1, 11,
   6, 59, 5, 10, 6, 4, 1, 8, 2, 2, 2, 22, 1, 7, 1, 2, 1, 5, 1, 10, 2, 2, 2, 3, 2, 1, 6, 1, 5, 7, 2,
   7, 3, 5, 11, 10, 1, 1, 2, 1, 1, 38, 1, 10, 1, 1, 2, 1, 1, 4, 1, 10, 1, 2, 8, 2, 29, 92, 1, 5, 30,
   72, 8, 10, 166, 54, 2, 38, 34, 69, 11, 10, 6, 13, 19, 58, 6, 10, 6, 20, 28, 27, 2, 15, 4, 23,
   185, 60, 100, 83, 12, 8, 2, 1, 2, 8, 1, 2, 1, 30, 1, 2, 2, 12, 9, 10, 70, 8, 2, 46, 2, 11, 27,
   72, 8, 83, 13, 73, 7, 10, 86, 8, 88, 34, 14, 10, 6, 9, 1, 45, 1, 14, 10, 29, 3, 32, 2, 22, 1, 14,
   73, 7, 1, 2, 1, 44, 3, 1, 1, 2, 1, 9, 8, 10, 6, 6, 1, 2, 1, 37, 1, 2, 1, 6, 7, 10, 6, 44, 4, 10,
   246, 25, 7, 17, 1, 41, 3, 29, 85, 1, 15, 50, 13, 923, 102, 111, 1, 5, 11, 196, 2636, 99, 13,
   1072, 16, 22, 10, 3995, 5, 583, 6841, 58, 1734, 569, 7, 31, 1, 10, 4, 81, 1, 10, 6, 30, 2, 6, 10,
   70, 10, 10, 1, 7, 1, 21, 5, 19, 432, 58, 198, 91, 5, 25, 2, 25, 44, 75, 4, 57, 7, 17, 64, 5, 11,
   7, 9, 7382, 41, 32, 97, 115, 8701, 4, 1, 7, 1, 2, 1, 291, 15, 1, 29, 3, 2, 1, 14, 4, 8, 396,
   2308, 107, 5, 13, 3, 9, 7, 10, 2, 8, 3932, 253, 3, 436, 6, 23, 15, 17, 15, 46, 2, 23, 9, 116, 60,
   246, 10, 39, 2, 194, 21, 70, 122, 20, 12, 20, 12, 87, 9, 25, 135, 85, 1, 71, 1, 2, 2, 1, 2, 2, 2,
   4, 1, 12, 1, 1, 1, 7, 1, 65, 1, 4, 2, 8, 1, 7, 1, 28, 1, 4, 1, 5, 1, 1, 3, 7, 1, 340, 2, 292, 2,
   702, 15, 5, 1, 15, 1104, 31, 6, 6, 213, 7, 1, 17, 2, 7, 1, 2, 1, 5, 5, 62, 33, 1, 112, 45, 3, 14,
   2, 10, 4, 2, 320, 31, 17, 58, 5, 1, 464, 42, 214, 43, 4, 1, 192, 31, 1, 22, 8, 2, 224, 7, 1, 4,
   1, 2, 1, 15, 1, 197, 2, 16, 41, 76, 4, 10, 4, 2, 785, 68, 76, 61, 194, 4, 1, 27, 1, 2, 1, 1, 2,
   1, 1, 10, 1, 4, 1, 1, 1, 1, 6, 1, 4, 1, 1, 1, 1, 1, 1, 3, 1, 2, 1, 1, 2, 1, 1, 1, 1, 1, 1, 1, 1,
   1, 1, 2, 1, 1, 2, 4, 1, 7, 1, 4, 1, 4, 1, 1, 1, 10, 1, 17, 5, 3, 1, 5, 1, 17, 52, 2, 270, 44, 4,
   100, 12, 15, 2, 15, 1, 15, 1, 37, 11, 173, 56, 29, 13, 44, 4, 9, 7, 2, 14, 6, 154, 985, 3, 17, 3,
   13, 3, 218, 6, 12, 4, 1, 15, 12, 4, 56, 8, 10, 6, 40, 8, 30, 2, 12, 4, 2, 14, 9, 39, 344, 8, 14,
   2, 13, 3, 11, 3, 57, 1, 1, 4, 16, 2, 12, 4, 10, 7, 147, 1, 103, 1029, 42720, 32, 4382, 2, 5774,
   2, 7473, 15, 622, 2466, 542, 1506, 4939, 5, 8490, 707718, 240, 196112]

/-- Code points that are passed over. -/
def ignored : CodePointSet where
  stretches := [
   173, 1, 673, 1, 3599, 2, 1619, 2, 85, 5, 2043, 1, 84, 5, 5, 6, 4340, 1, 52379, 16, 239, 1, 160,
   1, 48383, 4, 5327, 8, 798597, 240]

/-- Marks that take no place of their own. Only characters that a name can hold are told apart. -/
def nonspacingMarks : CodePointSet where
  stretches := [
   768, 113, 274, 8, 262, 45, 1, 1, 1, 2, 1, 2, 1, 9, 64, 11, 48, 21, 16, 1, 101, 8, 1, 6, 2, 2, 1,
   4, 35, 1, 30, 29, 89, 11, 58, 9, 9, 1, 24, 4, 1, 9, 1, 3, 1, 7, 41, 5, 57, 9, 42, 57, 55, 1, 1,
   1, 4, 8, 4, 1, 3, 15, 2, 2, 29, 1, 58, 1, 4, 6, 6, 1, 20, 4, 24, 5, 57, 2, 3, 27, 20, 2, 3, 1,
   11, 2, 57, 1, 4, 8, 4, 3, 18, 4, 20, 8, 58, 1, 2, 1, 1, 6, 6, 10, 11, 4, 28, 1, 61, 1, 12, 3, 48,
   1, 3, 1, 55, 1, 1, 3, 5, 18, 10, 4, 27, 1, 58, 1, 2, 1, 6, 1, 5, 9, 13, 4, 26, 2, 57, 2, 4, 5, 7,
   1, 20, 4, 27, 1, 72, 5, 3, 6, 89, 1, 2, 11, 8, 8, 98, 1, 2, 9, 11, 8, 72, 2, 27, 1, 1, 1, 1, 1,
   55, 14, 1, 5, 1, 2, 5, 49, 8, 1, 102, 4, 1, 6, 1, 2, 2, 2, 25, 2, 4, 3, 16, 4, 13, 1, 2, 2, 6, 1,
   15, 1, 703, 3, 946, 3, 29, 2, 30, 14, 18, 14, 55, 7, 8, 1, 2, 11, 9, 3, 165, 2, 34, 1, 118, 3, 4,
   2, 9, 1, 6, 7, 215, 2, 2, 3, 56, 1, 1, 9, 1, 1, 2, 8, 6, 13, 48, 84, 48, 1, 1, 5, 1, 1, 5, 1, 40,
   9, 12, 2, 32, 4, 2, 2, 1, 3, 56, 1, 1, 2, 3, 1, 1, 3, 58, 8, 2, 5, 149, 3, 1, 13, 1, 7, 4, 1, 6,
   1, 3, 2, 198, 65, 719, 52, 3051, 4, 140, 1, 96, 32, 554, 4, 107, 4, 30162, 4, 1, 10, 32, 2, 80,
   2, 272, 1, 3, 1, 4, 1, 25, 2, 5, 4, 148, 10, 18, 18, 13, 1, 38, 8, 25, 11, 46, 3, 48, 1, 2, 4, 2,
   2, 39, 1, 67, 6, 2, 2, 2, 11, 3, 1, 8, 1, 47, 1, 51, 1, 1, 3, 2, 2, 5, 2, 1, 1, 42, 2, 8, 11,
   228, 1, 2, 1, 4, 3, 20270, 148, 622, 37, 952, 131, 96, 1, 149, 10, 1665, 15, 40, 8, 165, 6, 569,
   12, 57, 5, 317, 2, 77, 6, 70, 11, 49, 4, 123, 1, 54, 15, 41, 1, 2, 2, 10, 3, 49, 4, 2, 2, 7, 14,
   48, 3, 36, 5, 1, 9, 61, 1, 12, 2, 52, 9, 10, 4, 2, 1, 95, 3, 2, 1, 1, 2, 6, 1, 2, 63, 95, 1, 3,
   13, 16, 2, 57, 2, 3, 1, 37, 26, 59, 7, 12, 1, 1, 1, 1, 1, 14, 31, 56, 8, 2, 3, 1, 1, 23, 1, 84,
   6, 1, 1, 4, 2, 1, 2, 238, 6, 4, 2, 1, 2, 27, 36, 51, 8, 2, 1, 1, 2, 106, 1, 1, 1, 2, 6, 1, 1,
   101, 1, 1, 1, 2, 4, 1, 9, 255, 9, 1, 2, 256, 2, 1, 1, 4, 1, 144, 8, 4, 1, 32, 10, 40, 6, 2, 4, 8,
   9, 1, 6, 2, 3, 46, 13, 1, 2, 198, 1, 1, 3, 1, 1, 201, 14, 1, 1, 82, 23, 1, 7, 1, 2, 1, 75, 49,
   21, 1, 9, 64, 3, 2, 1, 1, 1, 347, 2, 11, 2, 52, 8, 2, 1, 1, 1, 23, 86, 5264, 1, 6, 25, 11454, 12,
   3, 3, 2496, 5, 59, 7, 1048, 1, 63, 4, 81, 12, 19629, 2, 4705, 80, 535, 3, 17, 8, 2, 7, 30, 4,
   148, 3, 1979, 55, 4, 50, 8, 1, 14, 1, 22, 1125, 256, 256, 48, 7, 375, 18, 44, 4, 508, 4, 254, 2,
   243, 1, 2, 1, 7, 2, 5, 9, 466, 82, 34, 7]

/-- Marks that take a place of their own, among the characters that a name can hold. -/
def spacingMarks : CodePointSet where
  stretches := [
   2307, 1, 55, 1, 2, 3, 8, 4, 1, 2, 50, 3, 57, 3, 6, 6, 10, 9, 35, 2, 57, 3, 66, 2, 57, 3, 8, 4,
   53, 3, 57, 1, 1, 1, 6, 6, 10, 8, 95, 2, 1, 12, 10, 15, 27, 3, 61, 5, 60, 2, 58, 1, 1, 6, 1, 5, 9,
   7, 23, 13, 2, 2, 58, 3, 5, 7, 10, 1, 42, 3, 74, 3, 6, 14, 12, 2, 330, 2, 63, 1, 171, 2, 4, 1, 6,
   1, 2, 2, 25, 2, 10, 3, 2, 7, 21, 2, 2, 6, 2, 1, 10, 3, 1656, 10, 21, 1, 129, 1, 7, 8, 1, 2, 346,
   4, 2, 9, 1, 6, 224, 2, 58, 1, 1, 1, 9, 1, 1, 2, 8, 6, 145, 1, 48, 1, 5, 1, 1, 5, 1, 2, 61, 1, 30,
   1, 4, 2, 2, 1, 60, 1, 2, 3, 1, 1, 3, 10, 40, 8, 8, 2, 171, 1, 21, 1, 4918, 2, 30707, 2, 2, 1, 88,
   2, 50, 16, 142, 13, 36, 1, 48, 2, 4, 2, 2, 3, 110, 2, 2, 2, 24, 3, 43, 1, 1, 1, 109, 1, 2, 2, 5,
   1, 237, 2, 1, 2, 1, 2, 1, 1, 25619, 1, 1, 1, 127, 1, 45, 3, 4, 2, 115, 1, 24, 2, 59, 1, 48, 3, 9,
   2, 13, 1, 93, 3, 3, 2, 1, 1, 170, 3, 31, 3, 57, 2, 1, 15, 7, 6, 5, 4, 82, 3, 7, 12, 1, 1, 101, 3,
   8, 2, 3, 1, 106, 3, 6, 1, 1, 4, 2, 1, 237, 3, 6, 4, 2, 1, 113, 3, 8, 2, 1, 1, 109, 1, 1, 2, 6, 1,
   103, 1, 1, 2, 4, 1, 261, 3, 9, 1, 247, 11, 2, 1, 2, 1, 1, 1, 142, 3, 8, 4, 4, 28, 57, 1, 29, 2,
   62, 1, 201, 1, 3, 1, 1, 89, 111, 1, 14, 1, 106, 1, 7, 1, 2, 1, 213, 6, 3, 2, 1, 1, 350, 2, 12, 1,
   48, 2, 8, 2, 1, 1, 16872, 3, 3620, 62, 97, 2, 24947, 2, 6, 14]

/-- A mark of either kind. -/
def isMark (c : Char) : Bool := nonspacingMarks.contains c || spacingMarks.contains c

end ReleasePipeline.DomainName
