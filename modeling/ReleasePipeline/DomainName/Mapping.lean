/-
Characters that stand for others in domain names.

Upper case stands for lower case, and a form that is kept for compatibility stands for the plain
one: a full-width letter, a letter in a circle, a ligature. The dots of other scripts stand for the
full stop, so that they separate labels as it does.

Where neighbouring characters stand for others at the same distance, a progression says so for all
of them (`shifts`). What fits into none is listed: characters that stand for one other
(`replacements`), and characters that stand for several (`expansions`). The tables are asked in this
order.
-/
import ReleasePipeline.Text.CodePoints
import ReleasePipeline.Text.Hexadecimal

set_option autoImplicit false

namespace ReleasePipeline.DomainName

open Text (CodePointSet CodePointShift)

/-- Stretches of characters each of which stands for a character at the same distance. -/
def shifts : List CodePointShift := [
   ⟨65, 26, 1, 32⟩, ⟨178, 2, 1, -128⟩, ⟨192, 23, 1, 32⟩, ⟨216, 7, 1, 32⟩, ⟨256, 24, 2, 1⟩,
   ⟨308, 2, 2, 1⟩, ⟨313, 4, 4, 1⟩, ⟨323, 2, 4, 1⟩, ⟨330, 23, 2, 1⟩, ⟨377, 3, 2, 1⟩, ⟨386, 2, 2, 1⟩,
   ⟨391, 2, 4, 1⟩, ⟨393, 2, 1, 205⟩, ⟨416, 3, 2, 1⟩, ⟨422, 2, 3, 218⟩, ⟨428, 2, 3, 1⟩,
   ⟨433, 2, 1, 217⟩, ⟨435, 2, 2, 1⟩, ⟨440, 2, 4, 1⟩, ⟨461, 8, 2, 1⟩, ⟨478, 9, 2, 1⟩,
   ⟨500, 11, 4, 1⟩, ⟨506, 15, 4, 1⟩, ⟨548, 4, 4, 1⟩, ⟨582, 5, 2, 1⟩, ⟨688, 2, 2, -584⟩,
   ⟨832, 2, 1, -64⟩, ⟨880, 2, 2, 1⟩, ⟨904, 3, 1, 37⟩, ⟨910, 2, 1, 63⟩, ⟨913, 17, 1, 32⟩,
   ⟨931, 9, 1, 32⟩, ⟨984, 12, 2, 1⟩, ⟨1015, 2, 3, 1⟩, ⟨1021, 3, 1, -130⟩, ⟨1024, 16, 1, 80⟩,
   ⟨1040, 32, 1, 32⟩, ⟨1120, 17, 2, 1⟩, ⟨1162, 27, 2, 1⟩, ⟨1217, 7, 2, 1⟩, ⟨1232, 48, 2, 1⟩,
   ⟨1329, 38, 1, 48⟩, ⟨4256, 38, 1, 7264⟩, ⟨5112, 6, 1, -8⟩, ⟨7299, 2, 1, -6210⟩,
   ⟨7312, 43, 1, -3008⟩, ⟨7357, 3, 1, -3008⟩, ⟨7470, 5, 3, -7372⟩, ⟨7472, 4, 3, -7372⟩,
   ⟨7477, 2, 3, -7372⟩, ⟨7484, 2, 3, -7373⟩, ⟨7488, 2, 1, -7372⟩, ⟨7492, 2, 1, -6900⟩,
   ⟨7496, 2, 1, -7396⟩, ⟨7499, 2, 1, -6896⟩, ⟨7504, 2, 2, -7395⟩, ⟨7508, 2, 1, -62⟩,
   ⟨7511, 2, 1, -7395⟩, ⟨7517, 3, 1, -6571⟩, ⟨7520, 2, 1, -6554⟩, ⟨7524, 2, 1, -7407⟩,
   ⟨7526, 2, 1, -6580⟩, ⟨7529, 2, 1, -6563⟩, ⟨7588, 3, 1, -6972⟩, ⟨7598, 4, 1, -6972⟩,
   ⟨7603, 2, 1, -6961⟩, ⟨7606, 2, 1, -6957⟩, ⟨7609, 2, 1, -6958⟩, ⟨7612, 3, 1, -6956⟩,
   ⟨7680, 75, 2, 1⟩, ⟨7840, 48, 2, 1⟩, ⟨7944, 8, 1, -8⟩, ⟨7960, 6, 1, -8⟩, ⟨7976, 8, 1, -8⟩,
   ⟨7992, 8, 1, -8⟩, ⟨8008, 6, 1, -8⟩, ⟨8025, 4, 2, -8⟩, ⟨8040, 8, 1, -8⟩, ⟨8120, 2, 1, -8⟩,
   ⟨8136, 2, 2, -86⟩, ⟨8152, 2, 1, -8⟩, ⟨8168, 2, 1, -8⟩, ⟨8185, 2, 2, -7213⟩, ⟨8304, 3, 4, -8256⟩,
   ⟨8309, 3, 1, -8256⟩, ⟨8317, 2, 1, -8277⟩, ⟨8320, 10, 1, -8272⟩, ⟨8333, 2, 1, -8293⟩,
   ⟨8342, 4, 1, -8235⟩, ⟨8347, 2, 1, -8232⟩, ⟨8458, 2, 1, -8355⟩, ⟨8462, 2, 4, -8358⟩,
   ⟨8464, 2, 3, -8359⟩, ⟨8473, 3, 1, -8361⟩, ⟨8492, 2, 1, -8394⟩, ⟨8496, 2, 1, -8395⟩,
   ⟨8501, 4, 1, -7013⟩, ⟨8518, 2, 1, -8418⟩, ⟨8520, 2, 1, -8415⟩, ⟨8557, 2, 1, -8458⟩,
   ⟨8573, 2, 1, -8474⟩, ⟨9001, 2, 1, 3295⟩, ⟨9312, 9, 1, -9263⟩, ⟨9398, 26, 1, -9301⟩,
   ⟨9424, 26, 1, -9327⟩, ⟨11264, 48, 1, 48⟩, ⟨11367, 3, 2, 1⟩, ⟨11378, 2, 3, 1⟩,
   ⟨11390, 2, 1, -10815⟩, ⟨11392, 50, 2, 1⟩, ⟨11499, 2, 2, 1⟩, ⟨12345, 2, 1, 8971⟩,
   ⟨12593, 2, 1, -8241⟩, ⟨12595, 2, 2, -8073⟩, ⟨12599, 3, 1, -8244⟩, ⟨12602, 6, 1, -8074⟩,
   ⟨12609, 3, 1, -8251⟩, ⟨12613, 10, 1, -8252⟩, ⟨12623, 21, 1, -8174⟩, ⟨12645, 2, 1, -8273⟩,
   ⟨12647, 2, 1, -8096⟩, ⟨12657, 2, 1, -8276⟩, ⟨12660, 2, 1, -8274⟩, ⟨12664, 5, 1, -8269⟩,
   ⟨12674, 2, 1, -8081⟩, ⟨12676, 3, 1, -8237⟩, ⟨12679, 2, 1, -8195⟩, ⟨12682, 2, 1, -8185⟩,
   ⟨12897, 2, 1, -8543⟩, ⟨12899, 3, 1, -8542⟩, ⟨12903, 2, 1, -8540⟩, ⟨12905, 5, 1, -8539⟩,
   ⟨13012, 2, 1, -554⟩, ⟨13028, 6, 1, -538⟩, ⟨13038, 5, 1, -528⟩, ⟨13045, 6, 1, -525⟩,
   ⟨13051, 4, 1, -524⟩, ⟨42560, 23, 2, 1⟩, ⟨42624, 14, 2, 1⟩, ⟨42786, 20, 4, 1⟩, ⟨42788, 3, 4, 1⟩,
   ⟨42804, 15, 4, 1⟩, ⟨42873, 2, 2, 1⟩, ⟨42878, 5, 2, 1⟩, ⟨42896, 2, 2, 1⟩, ⟨42902, 10, 2, 1⟩,
   ⟨42922, 2, 4, -42308⟩, ⟨42932, 8, 2, 1⟩, ⟨42951, 2, 2, 1⟩, ⟨42956, 8, 2, 1⟩,
   ⟨43888, 80, 1, -38864⟩, ⟨64082, 2, 1, -32965⟩, ⟨64290, 2, 1, -62799⟩, ⟨64292, 3, 1, -62793⟩,
   ⟨64339, 2, 3, -62680⟩, ⟨64340, 2, 3, -62681⟩, ⟨64341, 2, 3, -62682⟩, ⟨64345, 2, 2, -62683⟩,
   ⟨64364, 2, 2, -62664⟩, ⟨64365, 2, 2, -62665⟩, ⟨64375, 2, 3, -62708⟩, ⟨64376, 2, 3, -62709⟩,
   ⟨64377, 2, 3, -62710⟩, ⟨64381, 2, 1, -62711⟩, ⟨64388, 2, 2, -62712⟩, ⟨64389, 2, 2, -62713⟩,
   ⟨64402, 2, 4, -62691⟩, ⟨64403, 2, 4, -62692⟩, ⟨64404, 2, 4, -62693⟩, ⟨64405, 2, 4, -62694⟩,
   ⟨64415, 2, 1, -62693⟩, ⟨64421, 2, 1, -62693⟩, ⟨64431, 2, 1, -62685⟩, ⟨64473, 2, 2, -62739⟩,
   ⟨64474, 2, 2, -62740⟩, ⟨65043, 2, 1, -64985⟩, ⟨65047, 2, 1, -52737⟩, ⟨65077, 2, 1, -65037⟩,
   ⟨65081, 2, 1, -52773⟩, ⟨65083, 2, 1, -52779⟩, ⟨65085, 2, 1, -52787⟩, ⟨65087, 2, 1, -52791⟩,
   ⟨65089, 4, 1, -52789⟩, ⟨65113, 2, 1, -65073⟩, ⟨65117, 2, 1, -52809⟩, ⟨65121, 2, 1, -65079⟩,
   ⟨65129, 2, 1, -65093⟩, ⟨65152, 2, 1, -63583⟩, ⟨65154, 2, 1, -63584⟩, ⟨65156, 2, 1, -63585⟩,
   ⟨65158, 2, 1, -63586⟩, ⟨65160, 2, 1, -63587⟩, ⟨65164, 2, 1, -63590⟩, ⟨65166, 2, 1, -63591⟩,
   ⟨65170, 2, 1, -63594⟩, ⟨65172, 2, 1, -63595⟩, ⟨65176, 2, 1, -63598⟩, ⟨65180, 2, 1, -63601⟩,
   ⟨65184, 2, 1, -63604⟩, ⟨65188, 2, 1, -63607⟩, ⟨65192, 2, 1, -63610⟩, ⟨65194, 2, 1, -63611⟩,
   ⟨65196, 2, 1, -63612⟩, ⟨65198, 2, 1, -63613⟩, ⟨65200, 2, 1, -63614⟩, ⟨65204, 2, 1, -63617⟩,
   ⟨65208, 2, 1, -63620⟩, ⟨65212, 2, 1, -63623⟩, ⟨65216, 2, 1, -63626⟩, ⟨65220, 2, 1, -63629⟩,
   ⟨65224, 2, 1, -63632⟩, ⟨65228, 2, 1, -63635⟩, ⟨65236, 2, 1, -63635⟩, ⟨65240, 2, 1, -63638⟩,
   ⟨65244, 2, 1, -63641⟩, ⟨65248, 2, 1, -63644⟩, ⟨65252, 2, 1, -63647⟩, ⟨65256, 2, 1, -63650⟩,
   ⟨65260, 2, 1, -63653⟩, ⟨65262, 2, 1, -63654⟩, ⟨65264, 2, 1, -63655⟩, ⟨65281, 32, 1, -65248⟩,
   ⟨65313, 26, 1, -65216⟩, ⟨65339, 36, 1, -65248⟩, ⟨65375, 2, 1, -54746⟩, ⟨65378, 2, 1, -53078⟩,
   ⟨65397, 2, 1, -52939⟩, ⟨65413, 6, 1, -52923⟩, ⟨65423, 5, 1, -52913⟩, ⟨65430, 6, 1, -52910⟩,
   ⟨65438, 2, 1, -52997⟩, ⟨65441, 2, 1, -61089⟩, ⟨65443, 2, 2, -60921⟩, ⟨65447, 3, 1, -61092⟩,
   ⟨65450, 6, 1, -60922⟩, ⟨65457, 3, 1, -61099⟩, ⟨65461, 10, 1, -61100⟩, ⟨65474, 6, 1, -61025⟩,
   ⟨65482, 6, 1, -61027⟩, ⟨65490, 6, 1, -61029⟩, ⟨65498, 3, 1, -61031⟩, ⟨65504, 2, 1, -65342⟩,
   ⟨65513, 4, 1, -56921⟩, ⟨66560, 40, 1, 40⟩, ⟨66736, 36, 1, 40⟩, ⟨66928, 19, 2, 39⟩,
   ⟨66929, 10, 4, 39⟩, ⟨66931, 2, 4, 39⟩, ⟨66943, 3, 4, 39⟩, ⟨67457, 2, 1, -66737⟩,
   ⟨67463, 2, 2, -66788⟩, ⟨67467, 2, 1, -66869⟩, ⟨67481, 2, 1, -66799⟩, ⟨67491, 2, 1, -66861⟩,
   ⟨67496, 2, 1, -66859⟩, ⟨67507, 2, 1, -66834⟩, ⟨67510, 3, 1, -67062⟩, ⟨68736, 51, 1, 64⟩,
   ⟨68944, 22, 1, 32⟩, ⟨71840, 32, 1, 32⟩, ⟨93760, 32, 1, 32⟩, ⟨93856, 25, 1, 27⟩,
   ⟨117974, 26, 1, -117877⟩, ⟨118000, 10, 1, -117952⟩, ⟨119808, 26, 1, -119711⟩,
   ⟨119834, 26, 1, -119737⟩, ⟨119860, 26, 1, -119763⟩, ⟨119886, 13, 2, -119789⟩,
   ⟨119887, 7, 4, -119789⟩, ⟨119897, 4, 4, -119789⟩, ⟨119912, 26, 1, -119815⟩,
   ⟨119938, 26, 1, -119841⟩, ⟨119964, 4, 3, -119867⟩, ⟨119974, 6, 3, -119867⟩,
   ⟨119978, 2, 1, -119867⟩, ⟨119982, 3, 3, -119867⟩, ⟨119984, 2, 3, -119867⟩,
   ⟨119990, 4, 1, -119893⟩, ⟨119995, 11, 2, -119893⟩, ⟨119998, 5, 4, -119893⟩,
   ⟨120008, 2, 4, -119893⟩, ⟨120016, 26, 1, -119919⟩, ⟨120042, 26, 1, -119945⟩,
   ⟨120068, 9, 3, -119971⟩, ⟨120069, 2, 3, -119971⟩, ⟨120078, 5, 3, -119971⟩,
   ⟨120079, 2, 3, -119971⟩, ⟨120088, 2, 3, -119971⟩, ⟨120094, 26, 1, -119997⟩,
   ⟨120120, 5, 3, -120023⟩, ⟨120121, 2, 3, -120023⟩, ⟨120125, 4, 3, -120023⟩,
   ⟨120138, 7, 1, -120023⟩, ⟨120146, 26, 1, -120049⟩, ⟨120172, 26, 1, -120075⟩,
   ⟨120198, 26, 1, -120101⟩, ⟨120224, 26, 1, -120127⟩, ⟨120250, 26, 1, -120153⟩,
   ⟨120276, 26, 1, -120179⟩, ⟨120302, 26, 1, -120205⟩, ⟨120328, 26, 1, -120231⟩,
   ⟨120354, 26, 1, -120257⟩, ⟨120380, 26, 1, -120283⟩, ⟨120406, 26, 1, -120309⟩,
   ⟨120432, 26, 1, -120335⟩, ⟨120458, 26, 1, -120361⟩, ⟨120488, 17, 1, -119543⟩,
   ⟨120506, 7, 1, -119543⟩, ⟨120514, 17, 1, -119569⟩, ⟨120532, 7, 1, -119569⟩,
   ⟨120546, 17, 1, -119601⟩, ⟨120564, 7, 1, -119601⟩, ⟨120572, 17, 1, -119627⟩,
   ⟨120590, 7, 1, -119627⟩, ⟨120604, 17, 1, -119659⟩, ⟨120622, 7, 1, -119659⟩,
   ⟨120630, 17, 1, -119685⟩, ⟨120648, 7, 1, -119685⟩, ⟨120662, 17, 1, -119717⟩,
   ⟨120680, 7, 1, -119717⟩, ⟨120688, 17, 1, -119743⟩, ⟨120706, 7, 1, -119743⟩,
   ⟨120720, 17, 1, -119775⟩, ⟨120738, 7, 1, -119775⟩, ⟨120746, 17, 1, -119801⟩,
   ⟨120764, 7, 1, -119801⟩, ⟨120782, 10, 1, -120734⟩, ⟨120792, 10, 1, -120744⟩,
   ⟨120802, 10, 1, -120754⟩, ⟨120812, 10, 1, -120764⟩, ⟨120822, 10, 1, -120774⟩,
   ⟨122928, 9, 1, -121856⟩, ⟨122937, 3, 1, -121855⟩, ⟨122940, 11, 1, -121854⟩,
   ⟨122952, 2, 1, -121851⟩, ⟨122961, 9, 1, -121889⟩, ⟨122970, 2, 1, -121888⟩,
   ⟨122972, 2, 1, -121886⟩, ⟨122975, 6, 1, -121884⟩, ⟨122981, 2, 1, -121883⟩, ⟨125184, 34, 1, 34⟩,
   ⟨126464, 2, 1, -124889⟩, ⟨126467, 2, 3, -124884⟩, ⟨126474, 4, 1, -124871⟩,
   ⟨126485, 2, 1, -124907⟩, ⟨126506, 4, 1, -124903⟩, ⟨126517, 2, 1, -124939⟩,
   ⟨126539, 2, 2, -124935⟩, ⟨126570, 2, 2, -124967⟩, ⟨126581, 2, 1, -125003⟩,
   ⟨126592, 2, 1, -125017⟩, ⟨126595, 2, 3, -125012⟩, ⟨126596, 2, 1, -124989⟩,
   ⟨126603, 3, 1, -124999⟩, ⟨126613, 2, 1, -125035⟩, ⟨126627, 2, 3, -125044⟩,
   ⟨126635, 3, 1, -125031⟩, ⟨126645, 2, 1, -125067⟩, ⟨127280, 26, 1, -127183⟩,
   ⟨130032, 10, 1, -129984⟩, ⟨194601, 2, 1, -173348⟩, ⟨194608, 2, 2, -173235⟩,
   ⟨194620, 2, 4, -172958⟩, ⟨194683, 2, 2, -55959⟩, ⟨194689, 2, 1, -170656⟩,
   ⟨194805, 2, 1, -167227⟩, ⟨194885, 2, 1, -164391⟩, ⟨195048, 2, 1, -157457⟩]

/-- Neighbouring characters that stand for one character each: the first of them, and what
they stand for. -/
def replacements : List (List Nat) := Text.hexRows [
   "A0 20, AA 61, B5 3BC, B9 31 6F, 13B 13C, 178 FF, 17F 73, 181 253, 186 254, 18E 1DD 259 25B 192",
   "193 260 263, 196 269 268 199, 19C 26F 272, 19F 275, 1A7 1A8, 1AE 288, 1B7 292, 1F6 195 1BF",
   "220 19E, 23A 2C65 23C, 23D 19A 2C66, 241 242, 243 180 289 28C, 2B1 266",
   "2B3 72 279 27B 281 77 79, 2E0 263 6C 73 78 295, 343 313, 345 3B9, 374 2B9, 376 377, 37E 3B 3F3",
   "386 3AC B7, 38C 3CC, 3CF 3D7 3B2 3B8 3C5 3CD 3CB 3C6 3C0, 3F0 3BA 3C1 3C3, 3F4 3B8 3B5",
   "3F9 3C3, 4C0 4CF, F0C F0B, 10C7 2D27, 10CD 2D2D, 10FC 10DC, 1C80 432 434 43E",
   "1C85 442 44A 463 A64B 1C8A, 1D2C 61 E6, 1D32 1DD, 1D3D 223 70, 1D42 77 61, 1D46 1D02 62",
   "1D4A 259, 1D4D 67, 1D4F 6B, 1D51 14B, 1D53 254, 1D56 70, 1D59 1D1D 26F 76 1D25, 1D62 69 72",
   "1D68 3C1, 1D78 43D, 1D9B 252 63 255 F0 25C 66 25F 261 265, 1DA7 1D7B 29D 26D 1D85 29F 271 270",
   "1DB2 278, 1DB5 1AB, 1DB8 1D1C, 1DBB 7A, 1DBF 3B8, 1E9B 1E61, 1E9E DF, 1F71 3AC, 1F73 3AD",
   "1F75 3AE, 1F77 3AF, 1F79 3CC, 1F7B 3CD, 1F7D 3CE, 1FBA 1F70 3AC, 1FBE 3B9, 1FC9 3AD, 1FCB 3AE",
   "1FD3 390, 1FDA 1F76 3AF, 1FE3 3B0, 1FEA 1F7A 3CD 1FE5, 1FEF 60, 1FF8 1F78, 1FFA 1F7C",
   "2000 20 20 20 20 20 20 20 20 20 20 20, 2011 2010, 202F 20, 205F 20, 2071 69",
   "2079 39 2B 2212 3D, 207F 6E, 208A 2B 2212 3D, 2090 61 65 6F 78 259 68, 209A 70, 2102 63",
   "2107 25B, 210C 68 68, 210F 127, 2111 69, 2115 6E, 211C 72 72, 2124 7A, 2126 3C9, 2128 7A",
   "212A 6B E5, 212F 65, 2132 214E 6D 6F, 2139 69, 213C 3C0 3B3 3B3 3C0 2211, 2145 64, 2160 69",
   "2164 76, 2169 78, 216C 6C, 216F 6D 69, 2174 76, 2179 78, 217C 6C, 217F 6D, 2183 2184, 24EA 30",
   "2C60 2C61, 2C62 26B 1D7D 27D, 2C6D 251 271 250 252, 2C7C 6A 76, 2CF2 2CF3, 2D6F 2D61",
   "2E9F 6BCD, 2EF3 9F9F, 2F00 4E00 4E28 4E36 4E3F 4E59 4E85 4E8C 4EA0 4EBA 513F 5165 516B",
   "2F0C 5182 5196 51AB 51E0 51F5 5200 529B 52F9 5315 531A 5338 5341",
   "2F18 535C 5369 5382 53B6 53C8 53E3 56D7 571F 58EB 5902 590A 5915",
   "2F24 5927 5973 5B50 5B80 5BF8 5C0F 5C22 5C38 5C6E 5C71 5DDB 5DE5",
   "2F30 5DF1 5DFE 5E72 5E7A 5E7F 5EF4 5EFE 5F0B 5F13 5F50 5F61 5F73",
   "2F3C 5FC3 6208 6236 624B 652F 6534 6587 6597 65A4 65B9 65E0 65E5",
   "2F48 66F0 6708 6728 6B20 6B62 6B79 6BB3 6BCB 6BD4 6BDB 6C0F 6C14",
   "2F54 6C34 706B 722A 7236 723B 723F 7247 7259 725B 72AC 7384 7389",
   "2F60 74DC 74E6 7518 751F 7528 7530 758B 7592 7676 767D 76AE 76BF",
   "2F6C 76EE 77DB 77E2 77F3 793A 79B8 79BE 7A74 7ACB 7AF9 7C73 7CF8",
   "2F78 7F36 7F51 7F8A 7FBD 8001 800C 8012 8033 807F 8089 81E3 81EA",
   "2F84 81F3 81FC 820C 821B 821F 826E 8272 8278 864D 866B 8840 884C",
   "2F90 8863 897E 898B 89D2 8A00 8C37 8C46 8C55 8C78 8C9D 8D64 8D70",
   "2F9C 8DB3 8EAB 8ECA 8F9B 8FB0 8FB5 9091 9149 91C6 91CC 91D1 9577",
   "2FA8 9580 961C 96B6 96B9 96E8 9751 975E 9762 9769 97CB 97ED 97F3",
   "2FB4 9801 98A8 98DB 98DF 9996 9999 99AC 9AA8 9AD8 9ADF 9B25 9B2F",
   "2FC0 9B32 9B3C 9B5A 9CE5 9E75 9E7F 9EA5 9EBB 9EC3 9ECD 9ED1 9EF9",
   "2FCC 9EFD 9F0E 9F13 9F20 9F3B 9F4A 9F52 9F8D 9F9C 9FA0, 3000 20, 3002 2E, 3036 3012, 3038 5341",
   "3134 1102, 3136 11AD, 3140 111A, 3144 1121, 3169 11CC 11CE 11D3 11D7 11D9 111C 11DD 11DF",
   "3173 1120, 3176 1127 1129, 317D 1132 1136 1140 1147 114C, 3189 1188, 318C 1194 119E 11A1",
   "3192 4E00 4E8C 4E09 56DB 4E0A 4E2D 4E0B 7532 4E59 4E19 4E01 5929, 319E 5730 4EBA",
   "3244 554F 5E7C 6587 7B8F, 3260 1100, 3266 1109",
   "326E AC00 B098 B2E4 B77C B9C8 BC14 C0AC C544 C790 CC28 CE74 D0C0, 327A D30C D558, 327E C6B0",
   "3280 4E00 4E8C 4E09 56DB 4E94 516D 4E03 516B 4E5D 5341 6708 706B",
   "328C 6C34 6728 91D1 571F 65E5 682A 6709 793E 540D 7279 8CA1 795D",
   "3298 52B4 79D8 7537 5973 9069 512A 5370 6CE8 9805 4F11 5199 6B63",
   "32A4 4E0A 4E2D 4E0B 5DE6 53F3 533B 5B97 5B66 76E3 4F01 8CC7 5354, 32B0 591C",
   "32D0 30A2 30A4 30A6 30A8, 32D6 30AD 30AF 30B1 30B3 30B5 30B7 30B9 30BB 30BD 30BF 30C1 30C4",
   "32E2 30C6 30C8, 32EA 30D2 30D5 30D8 30DB, 32F3 30E4 30E6, A69C 44A 44C, A770 A76F, A77D 1D79",
   "A78B A78C, A78D 265, A7AB 25C 261 26C, A7B0 29E 287 29D AB53, A7C4 A794 282 1D8E, A7CB 264",
   "A7DC 19B, A7F1 73 63 66 71 A7F6, A7F8 127 153, AB5C A727 AB37 26B AB52, AB69 28D",
   "F900 8C48 66F4 8ECA 8CC8 6ED1 4E32 53E5 9F9C 9F9C 5951 91D1 5587",
   "F90C 5948 61F6 7669 7F85 863F 87BA 88F8 908F 6A02 6D1B 70D9 73DE",
   "F918 843D 916A 99F1 4E82 5375 6B04 721B 862D 9E1E 5D50 6FEB 85CD",
   "F924 8964 62C9 81D8 881F 5ECA 6717 6D6A 72FC 90CE 4F86 51B7 52DE",
   "F930 64C4 6AD3 7210 76E7 8001 8606 865C 8DEF 9732 9B6F 9DFA 788C",
   "F93C 797F 7DA0 83C9 9304 9E7F 8AD6 58DF 5F04 7C60 807E 7262 78CA",
   "F948 8CC2 96F7 58D8 5C62 6A13 6DDA 6F0F 7D2F 7E37 964B 52D2 808B",
   "F954 51DC 51CC 7A1C 7DBE 83F1 9675 8B80 62CF 6A02 8AFE 4E39 5BE7",
   "F960 6012 7387 7570 5317 78FB 4FBF 5FA9 4E0D 6CCC 6578 7D22 53C3",
   "F96C 585E 7701 8449 8AAA 6BBA 8FB0 6C88 62FE 82E5 63A0 7565 4EAE",
   "F978 5169 51C9 6881 7CE7 826F 8AD2 91CF 52F5 5442 5973 5EEC 65C5",
   "F984 6FFE 792A 95AD 9A6A 9E97 9ECE 529B 66C6 6B77 8F62 5E74 6190",
   "F990 6200 649A 6F23 7149 7489 79CA 7DF4 806F 8F26 84EE 9023 934A",
   "F99C 5217 52A3 54BD 70C8 88C2 8AAA 5EC9 5FF5 637B 6BAE 7C3E 7375",
   "F9A8 4EE4 56F9 5BE7 5DBA 601C 73B2 7469 7F9A 8046 9234 96F6 9748",
   "F9B4 9818 4F8B 79AE 91B4 96B8 60E1 4E86 50DA 5BEE 5C3F 6599 6A02",
   "F9C0 71CE 7642 84FC 907C 9F8D 6688 962E 5289 677B 67F3 6D41 6E9C",
   "F9CC 7409 7559 786B 7D10 985E 516D 622E 9678 502B 5D19 6DEA 8F2A",
   "F9D8 5F8B 6144 6817 7387 9686 5229 540F 5C65 6613 674E 68A8 6CE5",
   "F9E4 7406 75E2 7F79 88CF 88E1 91CC 96E2 533F 6EBA 541D 71D0 7498",
   "F9F0 85FA 96A3 9C57 9E9F 6797 6DCB 81E8 7ACB 7B20 7C92 72C0 7099",
   "F9FC 8B58 4EC0 8336 523A 5207 5EA6 62D3 7CD6 5B85 6D1E 66B4 8F3B",
   "FA08 884C 964D 898B 5ED3 5140 55C0, FA10 585A, FA12 6674",
   "FA15 51DE 732A 76CA 793C 795E 7965 798F 9756 7CBE 7FBD, FA20 8612, FA22 8AF8, FA25 9038 90FD",
   "FA2A 98EF 98FC 9928 9DB4 90DE 96B7 4FAE 50E7 514D 52C9 52E4 5351",
   "FA36 559D 5606 5668 5840 58A8 5C64 5C6E 6094 6168 618E 61F2 654F",
   "FA42 65E2 6691 6885 6D77 6E1A 6F22 716E 722B 7422 7891 793E 7949, FA4E 7948 7950 7956 795D",
   "FA54 7A40 7A81 7BC0 7DF4 7E09 7E41 7F72 8005 81ED 8279 8279 8457",
   "FA60 8910 8996 8B01 8B39 8CD3 8D08 8FB6 9038 96E3 97FF 983B 6075, FA6C 242EE 8218",
   "FA70 4E26 51B5 5168 4F80 5145 5180 52C7 52FA 559D 5555 5599 55E2",
   "FA7C 585A 58B3 5944 5954 5A62 5B28 5ED2 5ED9 5F69 5FAD 60D8 614E",
   "FA88 6108 618E 6160 61F2 6234 63C4 641C 6452 6556 6674 6717 671B",
   "FA94 6756 6B79 6BBA 6D41 6EDB 6ECB 6F22 701E 716E 77A7 7235 72AF",
   "FAA0 732A 7471 7506 753B 761D 761F 76CA 76DB 76F4 774A 7740 78CC",
   "FAAC 7AB1 7BC0 7C7B 7D5B 7DF4 7F3E 8005 8352 83EF 8779 8941 8986",
   "FAB8 8996 8ABF 8AF8 8ACB 8B01 8AFE 8AED 8B39 8B8A 8D08 8F38 9072",
   "FAC4 9199 9276 967C 96E3 9756 97DB 97FF 980B 983B 9B12 9F9C 2284A",
   "FAD0 22844 233D5 3B9D 4018 4039 25249 25CD0 27ED3 9F43 9F8E, FB20 5E2 5D0, FB27 5E8 5EA 2B",
   "FB50 671 671 67B, FB5A 680, FB5C 680 680 67A 67A 67A 67A 67F 67F 67F 67F 679 679",
   "FB68 679 679 6A4 6A4, FB70 6A6 6A6 684 684 684 684 683, FB7F 687 687 687 68D 68D",
   "FB88 688 688 698 698 691 691 6A9 6A9 6A9 6A9, FB9A 6B1 6B1 6B1 6B1 6BA, FBA1 6BB 6BB 6BB 6C0",
   "FBA7 6C1 6C1 6C1 6BE 6BE 6BE 6BE 6D2, FBB1 6D3, FBD3 6AD 6AD 6AD 6AD 6C7 6C7",
   "FBDE 6CB 6CB 6C5 6C5 6C9 6C9 6D0 6D0 6D0 6D0 649 649, FBFC 6CC 6CC 6CC 6CC, FE10 2C 3001",
   "FE15 21 3F, FE31 2014 2013 5F 5F, FE37 7B 7D, FE47 5B 5D, FE4D 5F 5F 5F 2C 3001",
   "FE54 3B 3A 3F 21 2014, FE5B 7B 7D, FE5F 23 26, FE63 2D 3C 3E 3D, FE68 5C, FE6B 40",
   "FE8A 626 626, FE90 628 628, FE96 62A 62A, FE9A 62B 62B, FE9E 62C 62C, FEA2 62D 62D",
   "FEA6 62E 62E, FEB2 633 633, FEB6 634 634, FEBA 635 635, FEBE 636 636, FEC2 637 637",
   "FEC6 638 638, FECA 639 639, FECE 63A 63A 63A 641 641 641, FED6 642 642, FEDA 643 643",
   "FEDE 644 644, FEE2 645 645, FEE6 646 646, FEEA 647 647, FEF2 64A 64A 64A, FF61 2E",
   "FF64 3001 30FB 30F2 30A1 30A3 30A5 30A7 30A9 30E3 30E5 30E7 30C3",
   "FF70 30FC 30A2 30A4 30A6 30A8",
   "FF77 30AD 30AF 30B1 30B3 30B5 30B7 30B9 30BB 30BD 30BF 30C1 30C4, FF83 30C6 30C8",
   "FF8B 30D2 30D5 30D8 30DB, FF94 30E4 30E6, FF9C 30EF 30F3, FFA4 1102, FFA6 11AD, FFB0 111A",
   "FFB4 1121, FFE2 AC, FFE4 A6 A5 20A9, FFE8 2502, FFED 25A0 25CB, 1058F 105B6, 10783 E6 299 253",
   "10788 AB66, 1078A 2A4, 1078D 1D91 258 25E 2A9 264 262 260 29B 127 29C 267 284",
   "1079B 26C 1DF04 A78E 26E 1DF05 28E 1DF06 F8, 107A5 71 27A 1DF08",
   "107AA 280 2A8 2A6 AB67 2A7 288 2C71, 107B2 28F, 107B5 298, 107B9 1DF0A 1DF1E, 1D451 64",
   "1D49E 63, 1D4C0 6B, 1D509 66, 1D542 6B, 1D6A4 131 237, 1D6B9 3B8, 1D6C1 2207, 1D6D3 3C3",
   "1D6DB 2202 3B5 3B8 3BA 3C6 3C1 3C0, 1D6F3 3B8, 1D6FB 2207, 1D70D 3C3",
   "1D715 2202 3B5 3B8 3BA 3C6 3C1 3C0, 1D72D 3B8, 1D735 2207, 1D747 3C3",
   "1D74F 2202 3B5 3B8 3BA 3C6 3C1 3C0, 1D767 3B8, 1D76F 2207, 1D781 3C3",
   "1D789 2202 3B5 3B8 3BA 3C6 3C1 3C0, 1D7A1 3B8, 1D7A9 2207, 1D7BB 3C3",
   "1D7C3 2202 3B5 3B8 3BA 3C6 3C1 3C0 3DD 3DD, 1E047 44B, 1E04A A689 4D9 456 458 4E9 4AF 4CF",
   "1E05E 441, 1E067 491 456 455 45F 4AB A651 4B1, 1EE02 62C, 1EE05 648, 1EE07 62D 637 64A",
   "1EE0E 633 639 641 635 642 631 634, 1EE17 62E 630 636 638 63A 66E 6BA 6A1 66F, 1EE21 628 62C",
   "1EE24 647, 1EE27 62D, 1EE29 64A, 1EE2E 633 639 641 635 642, 1EE34 634, 1EE37 62E, 1EE39 636",
   "1EE3B 63A, 1EE42 62C, 1EE47 62D, 1EE49 64A, 1EE4E 633 639, 1EE51 635 642, 1EE54 634, 1EE57 62E",
   "1EE59 636, 1EE5B 63A, 1EE5D 6BA, 1EE5F 66F, 1EE61 628 62C, 1EE64 647, 1EE67 62D 637 64A",
   "1EE6D 646 633 639 641 635 642, 1EE74 634, 1EE77 62E, 1EE79 636 638 63A 66E, 1EE7E 6A1",
   "1EE82 62C, 1EE87 62D 637 64A, 1EE8E 633 639 641 635 642 631 634, 1EE97 62E 630 636 638 63A",
   "1EEA1 628 62C, 1EEA5 648, 1EEA7 62D 637 64A, 1EEAE 633 639 641 635 642 631 634",
   "1EEB7 62E 630 636 638 63A, 1F12B 63 72, 1F202 30B5",
   "1F210 624B 5B57 53CC 30C7 4E8C 591A 89E3 5929 4EA4 6620 7121 6599",
   "1F21C 524D 5F8C 518D 65B0 521D 7D42 751F 8CA9 58F0 5439 6F14 6295",
   "1F228 6355 4E00 4E09 904A 5DE6 4E2D 53F3 6307 8D70 6253 7981 7A7A",
   "1F234 5408 6E80 6709 6708 7533 5272 55B6 914D, 1F250 5F97 53EF",
   "2F800 4E3D 4E38 4E41 20122 4F60 4FAE 4FBB 5002 507A 5099 50E7 50CF",
   "2F80C 349E 2063A 514D 5154 5164 5177 2051C 34B9 5167 518D 2054B 5197",
   "2F818 51A4 4ECC 51AC 51B5 291DF 51F5 5203 34DF 523B 5246 5272 5277",
   "2F824 3515 52C7 52C9 52E4 52FA, 2F82B 5317 5349 5351 535A 5373, 2F831 537F",
   "2F833 537F 20A2C 7070 53CA 53DF 20B63 53EB 53F1 5406, 2F83D 5438 5448 5468",
   "2F841 54F6 5510 5553 5563 5584 5584 5599 55AB 55B3 55C2 5716 5606",
   "2F84D 5717 5651 5674 5207 58EE 57CE 57F4 580D 578B 5832 5831 58AC",
   "2F859 214E4 58F2 58F7 5906 591A 5922 5962 216A8 216EA 59EC 5A1B 5A27",
   "2F865 59D8 5A66 36EE 36FC 5B08 5B3E 5B3E 219C8 5BC3 5BD8 5BE7 5BF3",
   "2F871 21B18 5BFF 5C06 5F53 5C22 3781 5C60 5C6E 5CC0 5C8D, 2F87C 5D43, 2F87E 5D6E 5D6B 5D7C",
   "2F883 382F 5DFD 5E28 5E3D 5E69 3862 22183 387C 5EB0 5EB3 5EB6 5ECA",
   "2F88F 2A392 5EFE 22331 22331 8201 5F22 5F22 38C7 232B8 261DA 5F62 5F6B",
   "2F89B 38E3 5F9A 5FCD 5FD7 5FF9 6081 393A 391C 6094 226D4 60C7 6148",
   "2F8A7 614C 614E 614C 617A 618E 61B2 61A4 61AF 61DE 61F2 61F6 6210",
   "2F8B3 621B 625D 62B1 62D4 6350 22B0C 633D 62FC 6368 6383 63E4 22BF1",
   "2F8BF 6422 63C5 63A9 3A2E 6469 647E 649D 6477 3A6C 654F 656C 2300A",
   "2F8CB 65E3 66F8 6649 3B19 6691 3B08 3AE4 5192 5195 6700 669C 80AD",
   "2F8D7 43D9 6717 671B 6721 675E 6753 233C3 3B49 67FA 6785 6852 6885",
   "2F8E3 2346D 688E 681F 6914 3B9D 6942 69A3 69EA 6AA8 236A3 6ADB 3C18",
   "2F8EF 6B21 238A7 6B54 3C4E 6B72 6B9F",
   "2F8F7 23A8D 21D0B 23AFA 6C4E 23CBC 6CBF 6CCD 6C67 6D16 6D3E 6D77 6D41",
   "2F903 6D69 6D78 6D85 23D1E 6D34 6E2F 6E6E 3D33 6ECB 6EC7 23ED1 6DF9",
   "2F90F 6F6E 23F5E 23F8E 6FC6 7039 701E 701B 3D96 704A 707D 7077 70AD",
   "2F91B 20525 7145 24263 719C 243AB 7228 7235 7250 24608 7280 7295 24735",
   "2F927 24814 737A 738B 3EAC 73A5 3EB8 3EB8 7447 745C 7471 7485 74CA",
   "2F933 3F1B 7524 24C36 753E 24C92 7570 2219F 7610 24FA1 24FB8 25044 3FFC",
   "2F93F 4008 76F4 250F3 250F2 25119 25133",
   "2F947 771F 774A 4039 778B 4046 4096 2541D 784E 788C 78CC 40E3 25626",
   "2F953 7956 2569A 256C5 798F 79EB 412F 7A40 7A4A 7A4F 2597C 25AA7 25AA7",
   "2F95F 7AEE 4202 25BAB 7BC6 7BC9 4227 25C80 7CD2 42A0 7CE8 7CE3 7D00",
   "2F96B 25F86 7D63 4301 7DC7 7E02 7E45 4334 26228 26247 4359 262D9 7F7A",
   "2F977 2633E 7F95 7FFA 8005 264DA 26523 8060 265A8 8070 2335F 43D5 80B2",
   "2F983 8103 440B 813E 5AB5 267A7 267B5 23393 2339C 8201 8204 8F9E 446B",
   "2F98F 8291 828B 829D 52B3 82B1 82B3 82BD 82E6 26B3C 82E5 831D 8363",
   "2F99B 83AD 8323 83BD 83E7 8457 8353 83CA 83CC 83DC 26C36 26D6B 26CD5",
   "2F9A7 452B 84F1 84F3 8516 273CA 8564 26F2C 455D 4561 26FB1 270D2 456B",
   "2F9B3 8650 865C 8667 8669 86A9 8688 870E 86E2 8779 8728 876B 8786",
   "2F9BF 45D7 87E1 8801 45F9 8860 8863 27667 88D7 88DE 4635 88FA 34BB",
   "2F9CB 278AE 27966 46BE 46C7 8AA0 8AED 8B8A 8C55 27CA8 8CAB 8CC1 8D1B",
   "2F9D7 8D77 27F2F 20804 8DCB 8DBC 8DF0 208DE 8ED4 8F38 285D2 285ED 9094",
   "2F9E3 90F1 9111 2872E 911B 9238",
   "2F9EA 927C 93F9 9415 28BFA 958B 4995 95B7 28D77 49E6 96C3 5DB2 9723",
   "2F9F6 29145 2921A 4A6E 4A76 97E0 2940A 4AB2 29496 980B 980B 9829 295B6",
   "2FA02 98E2 4B33 9929 99A7 99C2 99FE 4BCE 29B30 9B12 9C40 9CFD 4CCE",
   "2FA0E 4CED 9D67 2A0CE 4CF8 2A105 2A20E 2A291 9EBB 4D56 9EF9 9EFE 9F05",
   "2FA1A 9F0F 9F16 9F3B 2A600"]

/-- Characters that stand for several: each of them, and what it stands for. -/
def expansions : List (List Nat) := Text.hexRows [
   "A8 20 308, AF 20 304, B4 20 301, B8 20 327, BC 31 2044 34, BD 31 2044 32, BE 33 2044 34",
   "130 69 307, 132 69 6A, 133 69 6A, 13F 6C B7, 140 6C B7, 149 2BC 6E, 1C4 64 17E, 1C5 64 17E",
   "1C6 64 17E, 1C7 6C 6A, 1C8 6C 6A, 1C9 6C 6A, 1CA 6E 6A, 1CB 6E 6A, 1CC 6E 6A, 1F1 64 7A",
   "1F2 64 7A, 1F3 64 7A, 2D8 20 306, 2D9 20 307, 2DA 20 30A, 2DB 20 328, 2DC 20 303, 2DD 20 30B",
   "344 308 301, 37A 20 3B9, 384 20 301, 385 20 308 301, 587 565 582, 675 627 674, 676 648 674",
   "677 6C7 674, 678 64A 674, 958 915 93C, 959 916 93C, 95A 917 93C, 95B 91C 93C, 95C 921 93C",
   "95D 922 93C, 95E 92B 93C, 95F 92F 93C, 9DC 9A1 9BC, 9DD 9A2 9BC, 9DF 9AF 9BC, A33 A32 A3C",
   "A36 A38 A3C, A59 A16 A3C, A5A A17 A3C, A5B A1C A3C, A5E A2B A3C, B5C B21 B3C, B5D B22 B3C",
   "E33 E4D E32, EB3 ECD EB2, EDC EAB E99, EDD EAB EA1, F43 F42 FB7, F4D F4C FB7, F52 F51 FB7",
   "F57 F56 FB7, F5C F5B FB7, F69 F40 FB5, F73 F71 F72, F75 F71 F74, F76 FB2 F80, F77 FB2 F71 F80",
   "F78 FB3 F80, F79 FB3 F71 F80, F81 F71 F80, F93 F92 FB7, F9D F9C FB7, FA2 FA1 FB7, FA7 FA6 FB7",
   "FAC FAB FB7, FB9 F90 FB5, 1E9A 61 2BE, 1F80 1F00 3B9, 1F81 1F01 3B9, 1F82 1F02 3B9",
   "1F83 1F03 3B9, 1F84 1F04 3B9, 1F85 1F05 3B9, 1F86 1F06 3B9, 1F87 1F07 3B9, 1F88 1F00 3B9",
   "1F89 1F01 3B9, 1F8A 1F02 3B9, 1F8B 1F03 3B9, 1F8C 1F04 3B9, 1F8D 1F05 3B9, 1F8E 1F06 3B9",
   "1F8F 1F07 3B9, 1F90 1F20 3B9, 1F91 1F21 3B9, 1F92 1F22 3B9, 1F93 1F23 3B9, 1F94 1F24 3B9",
   "1F95 1F25 3B9, 1F96 1F26 3B9, 1F97 1F27 3B9, 1F98 1F20 3B9, 1F99 1F21 3B9, 1F9A 1F22 3B9",
   "1F9B 1F23 3B9, 1F9C 1F24 3B9, 1F9D 1F25 3B9, 1F9E 1F26 3B9, 1F9F 1F27 3B9, 1FA0 1F60 3B9",
   "1FA1 1F61 3B9, 1FA2 1F62 3B9, 1FA3 1F63 3B9, 1FA4 1F64 3B9, 1FA5 1F65 3B9, 1FA6 1F66 3B9",
   "1FA7 1F67 3B9, 1FA8 1F60 3B9, 1FA9 1F61 3B9, 1FAA 1F62 3B9, 1FAB 1F63 3B9, 1FAC 1F64 3B9",
   "1FAD 1F65 3B9, 1FAE 1F66 3B9, 1FAF 1F67 3B9, 1FB2 1F70 3B9, 1FB3 3B1 3B9, 1FB4 3AC 3B9",
   "1FB7 1FB6 3B9, 1FBC 3B1 3B9, 1FBD 20 313, 1FBF 20 313, 1FC0 20 342, 1FC1 20 308 342",
   "1FC2 1F74 3B9, 1FC3 3B7 3B9, 1FC4 3AE 3B9, 1FC7 1FC6 3B9, 1FCC 3B7 3B9, 1FCD 20 313 300",
   "1FCE 20 313 301, 1FCF 20 313 342, 1FDD 20 314 300, 1FDE 20 314 301, 1FDF 20 314 342",
   "1FED 20 308 300, 1FEE 20 308 301, 1FF2 1F7C 3B9, 1FF3 3C9 3B9, 1FF4 3CE 3B9, 1FF7 1FF6 3B9",
   "1FFC 3C9 3B9, 1FFD 20 301, 1FFE 20 314, 2017 20 333, 2033 2032 2032, 2034 2032 2032 2032",
   "2036 2035 2035, 2037 2035 2035 2035, 203C 21 21, 203E 20 305, 2047 3F 3F, 2048 3F 21",
   "2049 21 3F, 2057 2032 2032 2032 2032, 20A8 72 73, 2100 61 2F 63, 2101 61 2F 73, 2103 B0 63",
   "2105 63 2F 6F, 2106 63 2F 75, 2109 B0 66, 2116 6E 6F, 2120 73 6D, 2121 74 65 6C, 2122 74 6D",
   "213B 66 61 78, 2150 31 2044 37, 2151 31 2044 39, 2152 31 2044 31 30, 2153 31 2044 33",
   "2154 32 2044 33, 2155 31 2044 35, 2156 32 2044 35, 2157 33 2044 35, 2158 34 2044 35",
   "2159 31 2044 36, 215A 35 2044 36, 215B 31 2044 38, 215C 33 2044 38, 215D 35 2044 38",
   "215E 37 2044 38, 215F 31 2044, 2161 69 69, 2162 69 69 69, 2163 69 76, 2165 76 69",
   "2166 76 69 69, 2167 76 69 69 69, 2168 69 78, 216A 78 69, 216B 78 69 69, 2171 69 69",
   "2172 69 69 69, 2173 69 76, 2175 76 69, 2176 76 69 69, 2177 76 69 69 69, 2178 69 78, 217A 78 69",
   "217B 78 69 69, 2189 30 2044 33, 222C 222B 222B, 222D 222B 222B 222B, 222F 222E 222E",
   "2230 222E 222E 222E, 2469 31 30, 246A 31 31, 246B 31 32, 246C 31 33, 246D 31 34, 246E 31 35",
   "246F 31 36, 2470 31 37, 2471 31 38, 2472 31 39, 2473 32 30, 2474 28 31 29, 2475 28 32 29",
   "2476 28 33 29, 2477 28 34 29, 2478 28 35 29, 2479 28 36 29, 247A 28 37 29, 247B 28 38 29",
   "247C 28 39 29, 247D 28 31 30 29, 247E 28 31 31 29, 247F 28 31 32 29, 2480 28 31 33 29",
   "2481 28 31 34 29, 2482 28 31 35 29, 2483 28 31 36 29, 2484 28 31 37 29, 2485 28 31 38 29",
   "2486 28 31 39 29, 2487 28 32 30 29, 249C 28 61 29, 249D 28 62 29, 249E 28 63 29, 249F 28 64 29",
   "24A0 28 65 29, 24A1 28 66 29, 24A2 28 67 29, 24A3 28 68 29, 24A4 28 69 29, 24A5 28 6A 29",
   "24A6 28 6B 29, 24A7 28 6C 29, 24A8 28 6D 29, 24A9 28 6E 29, 24AA 28 6F 29, 24AB 28 70 29",
   "24AC 28 71 29, 24AD 28 72 29, 24AE 28 73 29, 24AF 28 74 29, 24B0 28 75 29, 24B1 28 76 29",
   "24B2 28 77 29, 24B3 28 78 29, 24B4 28 79 29, 24B5 28 7A 29, 2A0C 222B 222B 222B 222B",
   "2A74 3A 3A 3D, 2A75 3D 3D, 2A76 3D 3D 3D, 2ADC 2ADD 338, 309B 20 3099, 309C 20 309A",
   "309F 3088 308A, 30FF 30B3 30C8, 3200 28 1100 29, 3201 28 1102 29, 3202 28 1103 29",
   "3203 28 1105 29, 3204 28 1106 29, 3205 28 1107 29, 3206 28 1109 29, 3207 28 110B 29",
   "3208 28 110C 29, 3209 28 110E 29, 320A 28 110F 29, 320B 28 1110 29, 320C 28 1111 29",
   "320D 28 1112 29, 320E 28 AC00 29, 320F 28 B098 29, 3210 28 B2E4 29, 3211 28 B77C 29",
   "3212 28 B9C8 29, 3213 28 BC14 29, 3214 28 C0AC 29, 3215 28 C544 29, 3216 28 C790 29",
   "3217 28 CC28 29, 3218 28 CE74 29, 3219 28 D0C0 29, 321A 28 D30C 29, 321B 28 D558 29",
   "321C 28 C8FC 29, 321D 28 C624 C804 29, 321E 28 C624 D6C4 29, 3220 28 4E00 29, 3221 28 4E8C 29",
   "3222 28 4E09 29, 3223 28 56DB 29, 3224 28 4E94 29, 3225 28 516D 29, 3226 28 4E03 29",
   "3227 28 516B 29, 3228 28 4E5D 29, 3229 28 5341 29, 322A 28 6708 29, 322B 28 706B 29",
   "322C 28 6C34 29, 322D 28 6728 29, 322E 28 91D1 29, 322F 28 571F 29, 3230 28 65E5 29",
   "3231 28 682A 29, 3232 28 6709 29, 3233 28 793E 29, 3234 28 540D 29, 3235 28 7279 29",
   "3236 28 8CA1 29, 3237 28 795D 29, 3238 28 52B4 29, 3239 28 4EE3 29, 323A 28 547C 29",
   "323B 28 5B66 29, 323C 28 76E3 29, 323D 28 4F01 29, 323E 28 8CC7 29, 323F 28 5354 29",
   "3240 28 796D 29, 3241 28 4F11 29, 3242 28 81EA 29, 3243 28 81F3 29, 3250 70 74 65, 3251 32 31",
   "3252 32 32, 3253 32 33, 3254 32 34, 3255 32 35, 3256 32 36, 3257 32 37, 3258 32 38, 3259 32 39",
   "325A 33 30, 325B 33 31, 325C 33 32, 325D 33 33, 325E 33 34, 325F 33 35, 327C CC38 ACE0",
   "327D C8FC C758, 32B1 33 36, 32B2 33 37, 32B3 33 38, 32B4 33 39, 32B5 34 30, 32B6 34 31",
   "32B7 34 32, 32B8 34 33, 32B9 34 34, 32BA 34 35, 32BB 34 36, 32BC 34 37, 32BD 34 38, 32BE 34 39",
   "32BF 35 30, 32C0 31 6708, 32C1 32 6708, 32C2 33 6708, 32C3 34 6708, 32C4 35 6708, 32C5 36 6708",
   "32C6 37 6708, 32C7 38 6708, 32C8 39 6708, 32C9 31 30 6708, 32CA 31 31 6708, 32CB 31 32 6708",
   "32CC 68 67, 32CD 65 72 67, 32CE 65 76, 32CF 6C 74 64, 32FF 4EE4 548C, 3300 30A2 30D1 30FC 30C8",
   "3301 30A2 30EB 30D5 30A1, 3302 30A2 30F3 30DA 30A2, 3303 30A2 30FC 30EB",
   "3304 30A4 30CB 30F3 30B0, 3305 30A4 30F3 30C1, 3306 30A6 30A9 30F3",
   "3307 30A8 30B9 30AF 30FC 30C9, 3308 30A8 30FC 30AB 30FC, 3309 30AA 30F3 30B9",
   "330A 30AA 30FC 30E0, 330B 30AB 30A4 30EA, 330C 30AB 30E9 30C3 30C8, 330D 30AB 30ED 30EA 30FC",
   "330E 30AC 30ED 30F3, 330F 30AC 30F3 30DE, 3310 30AE 30AC, 3311 30AE 30CB 30FC",
   "3312 30AD 30E5 30EA 30FC, 3313 30AE 30EB 30C0 30FC, 3314 30AD 30ED",
   "3315 30AD 30ED 30B0 30E9 30E0, 3316 30AD 30ED 30E1 30FC 30C8 30EB",
   "3317 30AD 30ED 30EF 30C3 30C8, 3318 30B0 30E9 30E0, 3319 30B0 30E9 30E0 30C8 30F3",
   "331A 30AF 30EB 30BC 30A4 30ED, 331B 30AF 30ED 30FC 30CD, 331C 30B1 30FC 30B9",
   "331D 30B3 30EB 30CA, 331E 30B3 30FC 30DD, 331F 30B5 30A4 30AF 30EB",
   "3320 30B5 30F3 30C1 30FC 30E0, 3321 30B7 30EA 30F3 30B0, 3322 30BB 30F3 30C1",
   "3323 30BB 30F3 30C8, 3324 30C0 30FC 30B9, 3325 30C7 30B7, 3326 30C9 30EB, 3327 30C8 30F3",
   "3328 30CA 30CE, 3329 30CE 30C3 30C8, 332A 30CF 30A4 30C4, 332B 30D1 30FC 30BB 30F3 30C8",
   "332C 30D1 30FC 30C4, 332D 30D0 30FC 30EC 30EB, 332E 30D4 30A2 30B9 30C8 30EB",
   "332F 30D4 30AF 30EB, 3330 30D4 30B3, 3331 30D3 30EB, 3332 30D5 30A1 30E9 30C3 30C9",
   "3333 30D5 30A3 30FC 30C8, 3334 30D6 30C3 30B7 30A7 30EB, 3335 30D5 30E9 30F3",
   "3336 30D8 30AF 30BF 30FC 30EB, 3337 30DA 30BD, 3338 30DA 30CB 30D2, 3339 30D8 30EB 30C4",
   "333A 30DA 30F3 30B9, 333B 30DA 30FC 30B8, 333C 30D9 30FC 30BF, 333D 30DD 30A4 30F3 30C8",
   "333E 30DC 30EB 30C8, 333F 30DB 30F3, 3340 30DD 30F3 30C9, 3341 30DB 30FC 30EB",
   "3342 30DB 30FC 30F3, 3343 30DE 30A4 30AF 30ED, 3344 30DE 30A4 30EB, 3345 30DE 30C3 30CF",
   "3346 30DE 30EB 30AF, 3347 30DE 30F3 30B7 30E7 30F3, 3348 30DF 30AF 30ED 30F3, 3349 30DF 30EA",
   "334A 30DF 30EA 30D0 30FC 30EB, 334B 30E1 30AC, 334C 30E1 30AC 30C8 30F3",
   "334D 30E1 30FC 30C8 30EB, 334E 30E4 30FC 30C9, 334F 30E4 30FC 30EB, 3350 30E6 30A2 30F3",
   "3351 30EA 30C3 30C8 30EB, 3352 30EA 30E9, 3353 30EB 30D4 30FC, 3354 30EB 30FC 30D6 30EB",
   "3355 30EC 30E0, 3356 30EC 30F3 30C8 30B2 30F3, 3357 30EF 30C3 30C8, 3358 30 70B9, 3359 31 70B9",
   "335A 32 70B9, 335B 33 70B9, 335C 34 70B9, 335D 35 70B9, 335E 36 70B9, 335F 37 70B9",
   "3360 38 70B9, 3361 39 70B9, 3362 31 30 70B9, 3363 31 31 70B9, 3364 31 32 70B9, 3365 31 33 70B9",
   "3366 31 34 70B9, 3367 31 35 70B9, 3368 31 36 70B9, 3369 31 37 70B9, 336A 31 38 70B9",
   "336B 31 39 70B9, 336C 32 30 70B9, 336D 32 31 70B9, 336E 32 32 70B9, 336F 32 33 70B9",
   "3370 32 34 70B9, 3371 68 70 61, 3372 64 61, 3373 61 75, 3374 62 61 72, 3375 6F 76, 3376 70 63",
   "3377 64 6D, 3378 64 6D 32, 3379 64 6D 33, 337A 69 75, 337B 5E73 6210, 337C 662D 548C",
   "337D 5927 6B63, 337E 660E 6CBB, 337F 682A 5F0F 4F1A 793E, 3380 70 61, 3381 6E 61, 3382 3BC 61",
   "3383 6D 61, 3384 6B 61, 3385 6B 62, 3386 6D 62, 3387 67 62, 3388 63 61 6C, 3389 6B 63 61 6C",
   "338A 70 66, 338B 6E 66, 338C 3BC 66, 338D 3BC 67, 338E 6D 67, 338F 6B 67, 3390 68 7A",
   "3391 6B 68 7A, 3392 6D 68 7A, 3393 67 68 7A, 3394 74 68 7A, 3395 3BC 6C, 3396 6D 6C",
   "3397 64 6C, 3398 6B 6C, 3399 66 6D, 339A 6E 6D, 339B 3BC 6D, 339C 6D 6D, 339D 63 6D",
   "339E 6B 6D, 339F 6D 6D 32, 33A0 63 6D 32, 33A1 6D 32, 33A2 6B 6D 32, 33A3 6D 6D 33",
   "33A4 63 6D 33, 33A5 6D 33, 33A6 6B 6D 33, 33A7 6D 2215 73, 33A8 6D 2215 73 32, 33A9 70 61",
   "33AA 6B 70 61, 33AB 6D 70 61, 33AC 67 70 61, 33AD 72 61 64, 33AE 72 61 64 2215 73",
   "33AF 72 61 64 2215 73 32, 33B0 70 73, 33B1 6E 73, 33B2 3BC 73, 33B3 6D 73, 33B4 70 76",
   "33B5 6E 76, 33B6 3BC 76, 33B7 6D 76, 33B8 6B 76, 33B9 6D 76, 33BA 70 77, 33BB 6E 77",
   "33BC 3BC 77, 33BD 6D 77, 33BE 6B 77, 33BF 6D 77, 33C0 6B 3C9, 33C1 6D 3C9, 33C3 62 71",
   "33C4 63 63, 33C5 63 64, 33C6 63 2215 6B 67, 33C8 64 62, 33C9 67 79, 33CA 68 61, 33CB 68 70",
   "33CC 69 6E, 33CD 6B 6B, 33CE 6B 6D, 33CF 6B 74, 33D0 6C 6D, 33D1 6C 6E, 33D2 6C 6F 67",
   "33D3 6C 78, 33D4 6D 62, 33D5 6D 69 6C, 33D6 6D 6F 6C, 33D7 70 68, 33D9 70 70 6D, 33DA 70 72",
   "33DB 73 72, 33DC 73 76, 33DD 77 62, 33DE 76 2215 6D, 33DF 61 2215 6D, 33E0 31 65E5",
   "33E1 32 65E5, 33E2 33 65E5, 33E3 34 65E5, 33E4 35 65E5, 33E5 36 65E5, 33E6 37 65E5",
   "33E7 38 65E5, 33E8 39 65E5, 33E9 31 30 65E5, 33EA 31 31 65E5, 33EB 31 32 65E5, 33EC 31 33 65E5",
   "33ED 31 34 65E5, 33EE 31 35 65E5, 33EF 31 36 65E5, 33F0 31 37 65E5, 33F1 31 38 65E5",
   "33F2 31 39 65E5, 33F3 32 30 65E5, 33F4 32 31 65E5, 33F5 32 32 65E5, 33F6 32 33 65E5",
   "33F7 32 34 65E5, 33F8 32 35 65E5, 33F9 32 36 65E5, 33FA 32 37 65E5, 33FB 32 38 65E5",
   "33FC 32 39 65E5, 33FD 33 30 65E5, 33FE 33 31 65E5, 33FF 67 61 6C, FB00 66 66, FB01 66 69",
   "FB02 66 6C, FB03 66 66 69, FB04 66 66 6C, FB05 73 74, FB06 73 74, FB13 574 576, FB14 574 565",
   "FB15 574 56B, FB16 57E 576, FB17 574 56D, FB1D 5D9 5B4, FB1F 5F2 5B7, FB2A 5E9 5C1",
   "FB2B 5E9 5C2, FB2C 5E9 5BC 5C1, FB2D 5E9 5BC 5C2, FB2E 5D0 5B7, FB2F 5D0 5B8, FB30 5D0 5BC",
   "FB31 5D1 5BC, FB32 5D2 5BC, FB33 5D3 5BC, FB34 5D4 5BC, FB35 5D5 5BC, FB36 5D6 5BC",
   "FB38 5D8 5BC, FB39 5D9 5BC, FB3A 5DA 5BC, FB3B 5DB 5BC, FB3C 5DC 5BC, FB3E 5DE 5BC",
   "FB40 5E0 5BC, FB41 5E1 5BC, FB43 5E3 5BC, FB44 5E4 5BC, FB46 5E6 5BC, FB47 5E7 5BC",
   "FB48 5E8 5BC, FB49 5E9 5BC, FB4A 5EA 5BC, FB4B 5D5 5B9, FB4C 5D1 5BF, FB4D 5DB 5BF",
   "FB4E 5E4 5BF, FB4F 5D0 5DC, FBDD 6C7 674, FBEA 626 627, FBEB 626 627, FBEC 626 6D5",
   "FBED 626 6D5, FBEE 626 648, FBEF 626 648, FBF0 626 6C7, FBF1 626 6C7, FBF2 626 6C6",
   "FBF3 626 6C6, FBF4 626 6C8, FBF5 626 6C8, FBF6 626 6D0, FBF7 626 6D0, FBF8 626 6D0",
   "FBF9 626 649, FBFA 626 649, FBFB 626 649, FC00 626 62C, FC01 626 62D, FC02 626 645",
   "FC03 626 649, FC04 626 64A, FC05 628 62C, FC06 628 62D, FC07 628 62E, FC08 628 645",
   "FC09 628 649, FC0A 628 64A, FC0B 62A 62C, FC0C 62A 62D, FC0D 62A 62E, FC0E 62A 645",
   "FC0F 62A 649, FC10 62A 64A, FC11 62B 62C, FC12 62B 645, FC13 62B 649, FC14 62B 64A",
   "FC15 62C 62D, FC16 62C 645, FC17 62D 62C, FC18 62D 645, FC19 62E 62C, FC1A 62E 62D",
   "FC1B 62E 645, FC1C 633 62C, FC1D 633 62D, FC1E 633 62E, FC1F 633 645, FC20 635 62D",
   "FC21 635 645, FC22 636 62C, FC23 636 62D, FC24 636 62E, FC25 636 645, FC26 637 62D",
   "FC27 637 645, FC28 638 645, FC29 639 62C, FC2A 639 645, FC2B 63A 62C, FC2C 63A 645",
   "FC2D 641 62C, FC2E 641 62D, FC2F 641 62E, FC30 641 645, FC31 641 649, FC32 641 64A",
   "FC33 642 62D, FC34 642 645, FC35 642 649, FC36 642 64A, FC37 643 627, FC38 643 62C",
   "FC39 643 62D, FC3A 643 62E, FC3B 643 644, FC3C 643 645, FC3D 643 649, FC3E 643 64A",
   "FC3F 644 62C, FC40 644 62D, FC41 644 62E, FC42 644 645, FC43 644 649, FC44 644 64A",
   "FC45 645 62C, FC46 645 62D, FC47 645 62E, FC48 645 645, FC49 645 649, FC4A 645 64A",
   "FC4B 646 62C, FC4C 646 62D, FC4D 646 62E, FC4E 646 645, FC4F 646 649, FC50 646 64A",
   "FC51 647 62C, FC52 647 645, FC53 647 649, FC54 647 64A, FC55 64A 62C, FC56 64A 62D",
   "FC57 64A 62E, FC58 64A 645, FC59 64A 649, FC5A 64A 64A, FC5B 630 670, FC5C 631 670",
   "FC5D 649 670, FC5E 20 64C 651, FC5F 20 64D 651, FC60 20 64E 651, FC61 20 64F 651",
   "FC62 20 650 651, FC63 20 651 670, FC64 626 631, FC65 626 632, FC66 626 645, FC67 626 646",
   "FC68 626 649, FC69 626 64A, FC6A 628 631, FC6B 628 632, FC6C 628 645, FC6D 628 646",
   "FC6E 628 649, FC6F 628 64A, FC70 62A 631, FC71 62A 632, FC72 62A 645, FC73 62A 646",
   "FC74 62A 649, FC75 62A 64A, FC76 62B 631, FC77 62B 632, FC78 62B 645, FC79 62B 646",
   "FC7A 62B 649, FC7B 62B 64A, FC7C 641 649, FC7D 641 64A, FC7E 642 649, FC7F 642 64A",
   "FC80 643 627, FC81 643 644, FC82 643 645, FC83 643 649, FC84 643 64A, FC85 644 645",
   "FC86 644 649, FC87 644 64A, FC88 645 627, FC89 645 645, FC8A 646 631, FC8B 646 632",
   "FC8C 646 645, FC8D 646 646, FC8E 646 649, FC8F 646 64A, FC90 649 670, FC91 64A 631",
   "FC92 64A 632, FC93 64A 645, FC94 64A 646, FC95 64A 649, FC96 64A 64A, FC97 626 62C",
   "FC98 626 62D, FC99 626 62E, FC9A 626 645, FC9B 626 647, FC9C 628 62C, FC9D 628 62D",
   "FC9E 628 62E, FC9F 628 645, FCA0 628 647, FCA1 62A 62C, FCA2 62A 62D, FCA3 62A 62E",
   "FCA4 62A 645, FCA5 62A 647, FCA6 62B 645, FCA7 62C 62D, FCA8 62C 645, FCA9 62D 62C",
   "FCAA 62D 645, FCAB 62E 62C, FCAC 62E 645, FCAD 633 62C, FCAE 633 62D, FCAF 633 62E",
   "FCB0 633 645, FCB1 635 62D, FCB2 635 62E, FCB3 635 645, FCB4 636 62C, FCB5 636 62D",
   "FCB6 636 62E, FCB7 636 645, FCB8 637 62D, FCB9 638 645, FCBA 639 62C, FCBB 639 645",
   "FCBC 63A 62C, FCBD 63A 645, FCBE 641 62C, FCBF 641 62D, FCC0 641 62E, FCC1 641 645",
   "FCC2 642 62D, FCC3 642 645, FCC4 643 62C, FCC5 643 62D, FCC6 643 62E, FCC7 643 644",
   "FCC8 643 645, FCC9 644 62C, FCCA 644 62D, FCCB 644 62E, FCCC 644 645, FCCD 644 647",
   "FCCE 645 62C, FCCF 645 62D, FCD0 645 62E, FCD1 645 645, FCD2 646 62C, FCD3 646 62D",
   "FCD4 646 62E, FCD5 646 645, FCD6 646 647, FCD7 647 62C, FCD8 647 645, FCD9 647 670",
   "FCDA 64A 62C, FCDB 64A 62D, FCDC 64A 62E, FCDD 64A 645, FCDE 64A 647, FCDF 626 645",
   "FCE0 626 647, FCE1 628 645, FCE2 628 647, FCE3 62A 645, FCE4 62A 647, FCE5 62B 645",
   "FCE6 62B 647, FCE7 633 645, FCE8 633 647, FCE9 634 645, FCEA 634 647, FCEB 643 644",
   "FCEC 643 645, FCED 644 645, FCEE 646 645, FCEF 646 647, FCF0 64A 645, FCF1 64A 647",
   "FCF2 640 64E 651, FCF3 640 64F 651, FCF4 640 650 651, FCF5 637 649, FCF6 637 64A, FCF7 639 649",
   "FCF8 639 64A, FCF9 63A 649, FCFA 63A 64A, FCFB 633 649, FCFC 633 64A, FCFD 634 649",
   "FCFE 634 64A, FCFF 62D 649, FD00 62D 64A, FD01 62C 649, FD02 62C 64A, FD03 62E 649",
   "FD04 62E 64A, FD05 635 649, FD06 635 64A, FD07 636 649, FD08 636 64A, FD09 634 62C",
   "FD0A 634 62D, FD0B 634 62E, FD0C 634 645, FD0D 634 631, FD0E 633 631, FD0F 635 631",
   "FD10 636 631, FD11 637 649, FD12 637 64A, FD13 639 649, FD14 639 64A, FD15 63A 649",
   "FD16 63A 64A, FD17 633 649, FD18 633 64A, FD19 634 649, FD1A 634 64A, FD1B 62D 649",
   "FD1C 62D 64A, FD1D 62C 649, FD1E 62C 64A, FD1F 62E 649, FD20 62E 64A, FD21 635 649",
   "FD22 635 64A, FD23 636 649, FD24 636 64A, FD25 634 62C, FD26 634 62D, FD27 634 62E",
   "FD28 634 645, FD29 634 631, FD2A 633 631, FD2B 635 631, FD2C 636 631, FD2D 634 62C",
   "FD2E 634 62D, FD2F 634 62E, FD30 634 645, FD31 633 647, FD32 634 647, FD33 637 645",
   "FD34 633 62C, FD35 633 62D, FD36 633 62E, FD37 634 62C, FD38 634 62D, FD39 634 62E",
   "FD3A 637 645, FD3B 638 645, FD3C 627 64B, FD3D 627 64B, FD50 62A 62C 645, FD51 62A 62D 62C",
   "FD52 62A 62D 62C, FD53 62A 62D 645, FD54 62A 62E 645, FD55 62A 645 62C, FD56 62A 645 62D",
   "FD57 62A 645 62E, FD58 62C 645 62D, FD59 62C 645 62D, FD5A 62D 645 64A, FD5B 62D 645 649",
   "FD5C 633 62D 62C, FD5D 633 62C 62D, FD5E 633 62C 649, FD5F 633 645 62D, FD60 633 645 62D",
   "FD61 633 645 62C, FD62 633 645 645, FD63 633 645 645, FD64 635 62D 62D, FD65 635 62D 62D",
   "FD66 635 645 645, FD67 634 62D 645, FD68 634 62D 645, FD69 634 62C 64A, FD6A 634 645 62E",
   "FD6B 634 645 62E, FD6C 634 645 645, FD6D 634 645 645, FD6E 636 62D 649, FD6F 636 62E 645",
   "FD70 636 62E 645, FD71 637 645 62D, FD72 637 645 62D, FD73 637 645 645, FD74 637 645 64A",
   "FD75 639 62C 645, FD76 639 645 645, FD77 639 645 645, FD78 639 645 649, FD79 63A 645 645",
   "FD7A 63A 645 64A, FD7B 63A 645 649, FD7C 641 62E 645, FD7D 641 62E 645, FD7E 642 645 62D",
   "FD7F 642 645 645, FD80 644 62D 645, FD81 644 62D 64A, FD82 644 62D 649, FD83 644 62C 62C",
   "FD84 644 62C 62C, FD85 644 62E 645, FD86 644 62E 645, FD87 644 645 62D, FD88 644 645 62D",
   "FD89 645 62D 62C, FD8A 645 62D 645, FD8B 645 62D 64A, FD8C 645 62C 62D, FD8D 645 62C 645",
   "FD8E 645 62E 62C, FD8F 645 62E 645, FD92 645 62C 62E, FD93 647 645 62C, FD94 647 645 645",
   "FD95 646 62D 645, FD96 646 62D 649, FD97 646 62C 645, FD98 646 62C 645, FD99 646 62C 649",
   "FD9A 646 645 64A, FD9B 646 645 649, FD9C 64A 645 645, FD9D 64A 645 645, FD9E 628 62E 64A",
   "FD9F 62A 62C 64A, FDA0 62A 62C 649, FDA1 62A 62E 64A, FDA2 62A 62E 649, FDA3 62A 645 64A",
   "FDA4 62A 645 649, FDA5 62C 645 64A, FDA6 62C 62D 649, FDA7 62C 645 649, FDA8 633 62E 649",
   "FDA9 635 62D 64A, FDAA 634 62D 64A, FDAB 636 62D 64A, FDAC 644 62C 64A, FDAD 644 645 64A",
   "FDAE 64A 62D 64A, FDAF 64A 62C 64A, FDB0 64A 645 64A, FDB1 645 645 64A, FDB2 642 645 64A",
   "FDB3 646 62D 64A, FDB4 642 645 62D, FDB5 644 62D 645, FDB6 639 645 64A, FDB7 643 645 64A",
   "FDB8 646 62C 62D, FDB9 645 62E 64A, FDBA 644 62C 645, FDBB 643 645 645, FDBC 644 62C 645",
   "FDBD 646 62C 62D, FDBE 62C 62D 64A, FDBF 62D 62C 64A, FDC0 645 62C 64A, FDC1 641 645 64A",
   "FDC2 628 62D 64A, FDC3 643 645 645, FDC4 639 62C 645, FDC5 635 645 645, FDC6 633 62E 64A",
   "FDC7 646 62C 64A, FDF0 635 644 6D2, FDF1 642 644 6D2, FDF2 627 644 644 647",
   "FDF3 627 643 628 631, FDF4 645 62D 645 62F, FDF5 635 644 639 645, FDF6 631 633 648 644",
   "FDF7 639 644 64A 647, FDF8 648 633 644 645, FDF9 635 644 649",
   "FDFA 635 644 649 20 627 644 644 647 20 639 644 64A 647 20 648 633 644 645",
   "FDFB 62C 644 20 62C 644 627 644 647, FDFC 631 6CC 627 644, FE49 20 305, FE4A 20 305",
   "FE4B 20 305, FE4C 20 305, FE70 20 64B, FE71 640 64B, FE72 20 64C, FE74 20 64D, FE76 20 64E",
   "FE77 640 64E, FE78 20 64F, FE79 640 64F, FE7A 20 650, FE7B 640 650, FE7C 20 651, FE7D 640 651",
   "FE7E 20 652, FE7F 640 652, FEF5 644 622, FEF6 644 622, FEF7 644 623, FEF8 644 623",
   "FEF9 644 625, FEFA 644 625, FEFB 644 627, FEFC 644 627, FFE3 20 304, 1D15E 1D157 1D165",
   "1D15F 1D158 1D165, 1D160 1D158 1D165 1D16E, 1D161 1D158 1D165 1D16F, 1D162 1D158 1D165 1D170",
   "1D163 1D158 1D165 1D171, 1D164 1D158 1D165 1D172, 1D1BB 1D1B9 1D165, 1D1BC 1D1BA 1D165",
   "1D1BD 1D1B9 1D165 1D16E, 1D1BE 1D1BA 1D165 1D16E, 1D1BF 1D1B9 1D165 1D16F",
   "1D1C0 1D1BA 1D165 1D16F, 1F101 30 2C, 1F102 31 2C, 1F103 32 2C, 1F104 33 2C, 1F105 34 2C",
   "1F106 35 2C, 1F107 36 2C, 1F108 37 2C, 1F109 38 2C, 1F10A 39 2C, 1F110 28 61 29",
   "1F111 28 62 29, 1F112 28 63 29, 1F113 28 64 29, 1F114 28 65 29, 1F115 28 66 29, 1F116 28 67 29",
   "1F117 28 68 29, 1F118 28 69 29, 1F119 28 6A 29, 1F11A 28 6B 29, 1F11B 28 6C 29, 1F11C 28 6D 29",
   "1F11D 28 6E 29, 1F11E 28 6F 29, 1F11F 28 70 29, 1F120 28 71 29, 1F121 28 72 29, 1F122 28 73 29",
   "1F123 28 74 29, 1F124 28 75 29, 1F125 28 76 29, 1F126 28 77 29, 1F127 28 78 29, 1F128 28 79 29",
   "1F129 28 7A 29, 1F12A 3014 73 3015, 1F12D 63 64, 1F12E 77 7A, 1F14A 68 76, 1F14B 6D 76",
   "1F14C 73 64, 1F14D 73 73, 1F14E 70 70 76, 1F14F 77 63, 1F16A 6D 63, 1F16B 6D 64, 1F16C 6D 72",
   "1F190 64 6A, 1F200 307B 304B, 1F201 30B3 30B3, 1F240 3014 672C 3015, 1F241 3014 4E09 3015",
   "1F242 3014 4E8C 3015, 1F243 3014 5B89 3015, 1F244 3014 70B9 3015, 1F245 3014 6253 3015",
   "1F246 3014 76D7 3015, 1F247 3014 52DD 3015, 1F248 3014 6557 3015"]

/-- What the character with a number stands for by the rows of `replacements`. -/
def replacementIn? (n : Nat) : List (List Nat) → Option Nat
  | [] => none
  | [] :: rest => replacementIn? n rest
  | (first :: images) :: rest =>
    if first ≤ n && n < first + images.length then images[n - first]? else replacementIn? n rest

/-- What the character with a number stands for by the rows of `expansions`. -/
def expansionIn? (n : Nat) : List (List Nat) → Option (List Nat)
  | [] => none
  | [] :: rest => expansionIn? n rest
  | (c :: images) :: rest => if c = n then some images else expansionIn? n rest

/-- What a character stands for, if it is not itself. -/
def image? (c : Char) : Option (List Char) :=
  if shifts.any (·.covers c.toNat) then some [Text.shiftBy shifts c]
  else
    match replacementIn? c.toNat replacements with
    | some n => some [Char.ofNat n]
    | none => (expansionIn? c.toNat expansions).map (·.map Char.ofNat)

end ReleasePipeline.DomainName
