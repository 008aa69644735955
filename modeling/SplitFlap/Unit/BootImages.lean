/-
  SplitFlap.Unit.BootImages — the boot sections there are.

  The image the sketch carries (`twiboot-new-progmem.h`), and the others that
  units were given, as `UnitBootloader/prebuilt` has them.  The classifier knows
  them by their CRC-32 (`BootSectionClassify.h`).
-/
import SplitFlap.Unit.BootSection

namespace SplitFlap.Boot

def sectionOf (pages : Vector Page 8) : Section := fun p => pages[p]

/-- `new_twiboot_image`. -/
def newTwibootImage : Section :=
  sectionOf #v[
    #v[17, 36, 141, 239, 152, 224, 158, 191, 141, 191, 132, 183, 142, 187, 20, 190, 224, 230, 240,
      224, 136, 225, 128, 131, 16, 130, 17, 224, 160, 224, 177, 224, 228, 230, 255, 231, 2, 192, 5,
      144, 13, 146, 170, 49, 177, 7, 217, 247, 33, 224, 170, 225, 177, 224, 1, 192, 29, 146, 174,
      57, 178, 7, 225, 247, 128, 227, 132, 185, 45, 154, 240, 224, 224, 224, 133, 145, 148, 145, 1,
      150, 17, 244, 16, 146, 0, 1, 243, 155, 16, 192, 128, 145, 254, 8, 144, 145, 255, 8, 152, 39,
      159, 63, 89, 244, 152, 47, 144, 127, 144, 58, 57, 244, 143, 112, 143, 48, 41, 240, 143, 95,
      3, 192, 128, 224, 1, 192, 129, 224],
    #v[152, 47, 144, 106, 144, 147, 254, 8, 144, 149, 144, 147, 255, 8, 131, 48, 16, 240, 16, 146,
      0, 1, 136, 224, 139, 189, 133, 224, 133, 189, 138, 177, 135, 120, 138, 185, 139, 177, 136,
      103, 139, 185, 134, 233, 0, 0, 129, 80, 233, 247, 137, 177, 131, 251, 136, 39, 128, 249, 145,
      224, 137, 39, 76, 155, 130, 96, 77, 155, 132, 96, 78, 155, 136, 96, 143, 95, 136, 15, 128,
      147, 186, 0, 132, 228, 128, 147, 188, 0, 147, 224, 233, 46, 205, 233, 209, 224, 1, 224, 37,
      224, 242, 46, 49, 225, 211, 46, 77, 224, 196, 46, 220, 192, 128, 145, 188, 0, 135, 255, 187,
      192, 16, 145, 188, 0, 128, 145, 185, 0],
    #v[136, 127, 128, 58, 9, 244, 107, 192, 72, 244, 128, 56, 161, 240, 136, 56, 9, 244, 92, 192,
      128, 54, 9, 240, 166, 192, 9, 192, 136, 59, 217, 240, 128, 60, 9, 244, 157, 192, 136, 58, 9,
      240, 157, 192, 17, 192, 16, 146, 26, 1, 44, 154, 153, 192, 96, 145, 187, 0, 128, 145, 26, 1,
      145, 224, 152, 15, 144, 147, 26, 1, 190, 208, 129, 17, 142, 192, 31, 123, 140, 192, 16, 146,
      26, 1, 44, 154, 128, 145, 26, 1, 145, 224, 152, 15, 144, 147, 26, 1, 144, 145, 157, 1, 146,
      49, 81, 240, 146, 50, 1, 241, 145, 48, 73, 245, 143, 112, 232, 47, 240, 224, 231, 95, 254,
      79, 8, 192, 108, 45],
    #v[229, 208, 152, 48, 48, 244, 233, 47, 240, 224, 239, 95, 254, 79, 144, 129, 26, 192, 156, 48,
      65, 240, 41, 47, 40, 80, 51, 11, 249, 1, 176, 146, 87, 0, 148, 145, 16, 192, 144, 145, 254,
      8, 159, 112, 12, 192, 224, 145, 27, 1, 240, 145, 28, 1, 148, 145, 49, 150, 240, 147, 28, 1,
      224, 147, 27, 1, 1, 192, 159, 239, 144, 147, 187, 0, 78, 192, 96, 145, 187, 0, 128, 145, 26,
      1, 145, 224, 152, 15, 144, 147, 26, 1, 115, 208, 128, 145, 157, 1, 130, 52, 9, 240, 58, 192,
      31, 123, 129, 47, 128, 104, 128, 147, 188, 0, 128, 145, 27, 1, 144, 145, 28, 1, 129, 21, 60,
      231, 147, 7],
    #v[104, 245, 252, 1, 224, 146, 87, 0, 232, 149, 7, 182, 0, 252, 253, 207, 173, 225, 177, 224,
      172, 1, 77, 81, 81, 64, 44, 145, 250, 1, 234, 15, 251, 31, 17, 150, 60, 145, 17, 151, 9, 1,
      0, 147, 87, 0, 232, 149, 17, 36, 18, 150, 202, 23, 219, 7, 129, 247, 156, 1, 32, 88, 63, 79,
      48, 147, 28, 1, 32, 147, 27, 1, 252, 1, 240, 146, 87, 0, 232, 149, 7, 182, 0, 252, 253, 207,
      208, 146, 87, 0, 232, 149, 16, 146, 26, 1, 44, 152, 16, 100, 1, 192, 16, 97, 16, 104, 16,
      147, 188, 0, 168, 155, 29, 192, 246, 188, 133, 177, 144, 226, 137, 39, 133, 185, 128, 145, 0,
      1],
    #v[136, 35, 137, 240, 138, 181, 143, 95, 138, 189, 136, 48, 96, 240, 26, 188, 139, 181, 130,
      48, 24, 240, 129, 80, 139, 189, 5, 192, 129, 48, 25, 244, 129, 226, 128, 147, 157, 1, 5, 187,
      137, 224, 184, 46, 128, 145, 157, 1, 129, 50, 9, 240, 29, 207, 16, 146, 188, 0, 21, 188, 21,
      184, 240, 224, 224, 224, 9, 149, 129, 48, 105, 240, 24, 240, 132, 48, 96, 245, 34, 192, 99,
      48, 40, 244, 138, 238, 139, 189, 96, 147, 157, 1, 53, 192, 145, 226, 18, 192, 144, 145, 157,
      1, 145, 48, 25, 240, 146, 48, 73, 240, 42, 192, 96, 56, 65, 245, 129, 226, 128, 147, 157, 1,
      16, 146, 254, 8, 34, 192],
    #v[97, 17, 4, 192, 146, 225, 144, 147, 157, 1, 8, 149, 146, 226, 97, 48, 209, 243, 24, 192,
      128, 224, 144, 145, 27, 1, 134, 43, 144, 147, 28, 1, 128, 147, 27, 1, 17, 192, 144, 145, 157,
      1, 146, 50, 89, 244, 132, 80, 232, 47, 240, 224, 227, 94, 254, 79, 96, 131, 143, 55, 40, 240,
      130, 228, 128, 147, 157, 1, 128, 224, 8, 149, 129, 224, 8, 149, 153, 27, 121, 224, 4, 192,
      153, 31, 150, 23, 8, 240, 150, 27, 136, 31, 122, 149, 201, 247, 128, 149, 8, 149, 1, 30, 149,
      15, 128, 124, 0, 0, 0, 83, 70, 3, 15, 255, 255, 255, 255, 255, 255, 255, 255, 255, 255, 255,
      255, 0, 255, 255],
    #v[252, 1, 10, 1, 103, 191, 232, 149, 119, 183, 112, 253, 253, 207, 17, 36, 8, 149, 255, 255,
      255, 255, 255, 255, 255, 255, 255, 255, 255, 255, 255, 255, 255, 255, 255, 255, 255, 255,
      255, 255, 255, 255, 255, 255, 255, 255, 255, 255, 255, 255, 255, 255, 255, 255, 255, 255,
      255, 255, 255, 255, 255, 255, 255, 255, 255, 255, 255, 255, 255, 255, 255, 255, 255, 255,
      255, 255, 255, 255, 255, 255, 255, 255, 255, 255, 255, 255, 255, 255, 255, 255, 255, 255,
      255, 255, 255, 255, 255, 255, 255, 255, 255, 255, 255, 255, 255, 255, 255, 255, 255, 255,
      255, 255, 255, 255, 255, 255, 255, 255, 255, 255, 255, 255, 255, 255, 255, 255, 1, 254]]

/-- The fielded twiboot; its page 7 is empty. -/
def fieldedTwiboot : Section :=
  sectionOf #v[
    #v[17, 36, 20, 190, 224, 230, 240, 224, 136, 225, 128, 131, 16, 130, 17, 224, 160, 224, 177,
      224, 224, 230, 255, 231, 2, 192, 5, 144, 13, 146, 170, 49, 177, 7, 217, 247, 33, 224, 170,
      225, 177, 224, 1, 192, 29, 146, 174, 57, 178, 7, 225, 247, 31, 146, 205, 183, 222, 183, 128,
      227, 132, 185, 45, 154, 240, 224, 224, 224, 133, 145, 148, 145, 1, 150, 17, 244, 16, 146, 0,
      1, 133, 224, 133, 189, 138, 177, 135, 120, 138, 185, 139, 177, 136, 103, 139, 185, 25, 130,
      137, 129, 130, 51, 128, 241, 137, 177, 131, 251, 136, 39, 128, 249, 145, 224, 137, 39, 76,
      155, 130, 96, 77, 155, 132, 96, 78, 155, 136, 96],
    #v[143, 95, 136, 15, 128, 147, 186, 0, 132, 228, 128, 147, 188, 0, 131, 224, 152, 46, 157, 233,
      233, 46, 145, 224, 249, 46, 1, 224, 37, 224, 210, 46, 49, 225, 195, 46, 64, 226, 180, 46, 81,
      226, 165, 46, 128, 145, 157, 1, 129, 50, 121, 244, 16, 146, 188, 0, 21, 188, 21, 184, 240,
      224, 224, 224, 0, 0, 49, 151, 233, 247, 9, 149, 0, 0, 137, 129, 143, 95, 137, 131, 200, 207,
      128, 145, 188, 0, 135, 255, 23, 192, 16, 145, 188, 0, 128, 145, 185, 0, 136, 127, 128, 58, 9,
      244, 127, 192, 16, 245, 128, 56, 209, 241, 136, 56, 9, 244, 112, 192, 128, 54, 9, 240, 221,
      192, 16, 146, 26, 1],
    #v[44, 154, 16, 104, 16, 147, 188, 0, 168, 155, 208, 207, 214, 188, 133, 177, 139, 37, 133,
      185, 128, 145, 0, 1, 136, 35, 65, 240, 128, 145, 1, 1, 130, 48, 8, 244, 202, 192, 129, 80,
      128, 147, 1, 1, 5, 187, 190, 207, 136, 59, 73, 240, 128, 60, 9, 244, 110, 192, 136, 58, 9,
      240, 187, 192, 16, 146, 26, 1, 44, 154, 224, 145, 26, 1, 129, 224, 142, 15, 128, 147, 26, 1,
      128, 145, 157, 1, 130, 49, 113, 241, 136, 244, 129, 48, 25, 241, 143, 239, 38, 192, 96, 145,
      187, 0, 128, 145, 26, 1, 145, 224, 152, 15, 144, 147, 26, 1, 168, 208, 129, 17, 196, 207, 31,
      123, 194, 207, 130, 50],
    #v[249, 240, 130, 51, 105, 247, 128, 145, 27, 1, 144, 145, 28, 1, 156, 1, 47, 95, 63, 79, 48,
      147, 28, 1, 32, 147, 27, 1, 129, 189, 146, 189, 248, 154, 128, 181, 5, 192, 239, 112, 240,
      224, 230, 95, 254, 79, 128, 129, 128, 147, 187, 0, 166, 207, 231, 112, 240, 224, 238, 95,
      254, 79, 247, 207, 224, 145, 27, 1, 240, 145, 28, 1, 132, 145, 49, 150, 240, 147, 28, 1, 224,
      147, 27, 1, 237, 207, 96, 145, 187, 0, 128, 145, 26, 1, 145, 224, 152, 15, 144, 147, 26, 1,
      111, 208, 128, 145, 157, 1, 143, 126, 130, 52, 129, 244, 31, 123, 129, 47, 128, 104, 128,
      147, 188, 0, 128, 145, 157, 1],
    #v[130, 53, 25, 245, 128, 145, 26, 1, 132, 80, 237, 225, 241, 224, 129, 80, 40, 244, 16, 146,
      26, 1, 44, 152, 16, 100, 115, 207, 145, 145, 32, 145, 27, 1, 33, 189, 32, 145, 28, 1, 34,
      189, 144, 189, 32, 145, 27, 1, 48, 145, 28, 1, 47, 95, 63, 79, 48, 147, 28, 1, 32, 147, 27,
      1, 250, 154, 249, 154, 249, 153, 254, 207, 226, 207, 128, 145, 27, 1, 144, 145, 28, 1, 129,
      21, 236, 231, 158, 7, 224, 246, 252, 1, 144, 146, 87, 0, 232, 149, 7, 182, 0, 252, 253, 207,
      173, 225, 177, 224, 172, 1, 77, 81, 81, 64, 44, 145, 250, 1, 234, 15, 251, 31, 17, 150, 60,
      145, 17, 151],
    #v[9, 1, 0, 147, 87, 0, 232, 149, 17, 36, 18, 150, 234, 22, 251, 6, 129, 247, 156, 1, 32, 88,
      63, 79, 48, 147, 28, 1, 32, 147, 27, 1, 252, 1, 208, 146, 87, 0, 232, 149, 7, 182, 0, 252,
      253, 207, 192, 146, 87, 0, 232, 149, 174, 207, 16, 97, 36, 207, 129, 48, 9, 240, 54, 207,
      160, 146, 157, 1, 51, 207, 129, 48, 193, 240, 88, 240, 132, 48, 112, 245, 128, 224, 144, 145,
      27, 1, 134, 43, 144, 147, 28, 1, 128, 147, 27, 1, 6, 192, 99, 48, 48, 244, 16, 146, 1, 1, 96,
      147, 157, 1, 129, 224, 8, 149, 145, 226, 144, 147, 157, 1, 8, 149, 144, 145, 157, 1, 145, 48],
    #v[33, 240, 146, 48, 65, 240, 128, 224, 8, 149, 96, 56, 225, 247, 129, 226, 128, 147, 157, 1,
      248, 207, 97, 17, 2, 192, 146, 225, 235, 207, 146, 226, 97, 48, 65, 243, 146, 227, 98, 48,
      113, 247, 228, 207, 144, 145, 157, 1, 146, 51, 145, 240, 146, 53, 17, 240, 146, 50, 41, 247,
      132, 80, 232, 47, 240, 224, 227, 94, 254, 79, 96, 131, 143, 55, 136, 242, 128, 145, 157, 1,
      130, 50, 201, 246, 130, 228, 220, 207, 146, 229, 144, 147, 157, 1, 238, 207, 1, 62, 30, 149,
      15, 128, 124, 0, 4, 0, 84, 87, 73, 66, 79, 79, 84, 32, 118, 51, 46, 50, 0, 0, 0, 0, 255, 255,
      255, 255, 255, 255],
    blankPage]

/-- `twiboot-prev-e422a668.hex`. -/
def prevNewTwiboot : Section :=
  sectionOf #v[
    #v[17, 36, 132, 183, 142, 187, 20, 190, 224, 230, 240, 224, 136, 225, 128, 131, 16, 130, 17,
      224, 160, 224, 177, 224, 238, 238, 254, 231, 2, 192, 5, 144, 13, 146, 172, 49, 177, 7, 217,
      247, 33, 224, 172, 225, 177, 224, 1, 192, 29, 146, 160, 58, 178, 7, 225, 247, 31, 146, 205,
      183, 222, 183, 128, 227, 132, 185, 45, 154, 240, 224, 224, 224, 133, 145, 148, 145, 1, 150,
      17, 244, 16, 146, 0, 1, 133, 224, 133, 189, 138, 177, 135, 120, 138, 185, 139, 177, 136, 103,
      139, 185, 25, 130, 137, 129, 130, 51, 128, 241, 137, 177, 131, 251, 136, 39, 128, 249, 145,
      224, 137, 39, 76, 155, 130, 96, 77, 155, 132, 96],
    #v[78, 155, 136, 96, 143, 95, 136, 15, 128, 147, 186, 0, 132, 228, 128, 147, 188, 0, 131, 224,
      152, 46, 159, 233, 233, 46, 145, 224, 249, 46, 1, 224, 37, 224, 210, 46, 49, 225, 195, 46,
      64, 226, 180, 46, 81, 226, 165, 46, 128, 145, 159, 1, 129, 50, 121, 244, 16, 146, 188, 0, 21,
      188, 21, 184, 240, 224, 224, 224, 0, 0, 49, 151, 233, 247, 9, 149, 0, 0, 137, 129, 143, 95,
      137, 131, 200, 207, 128, 145, 188, 0, 135, 255, 24, 192, 16, 145, 188, 0, 128, 145, 185, 0,
      136, 127, 128, 58, 9, 244, 114, 192, 64, 245, 128, 56, 9, 244, 70, 192, 136, 56, 9, 244, 98,
      192, 128, 54, 9, 240],
    #v[172, 192, 16, 146, 28, 1, 44, 154, 16, 104, 16, 147, 188, 0, 168, 155, 207, 207, 214, 188,
      133, 177, 139, 37, 133, 185, 128, 145, 0, 1, 136, 35, 105, 240, 128, 145, 1, 1, 144, 145, 2,
      1, 130, 48, 145, 5, 8, 244, 150, 192, 1, 151, 144, 147, 2, 1, 128, 147, 1, 1, 5, 187, 184,
      207, 136, 59, 73, 240, 128, 60, 9, 244, 133, 192, 136, 58, 9, 240, 133, 192, 16, 146, 28, 1,
      44, 154, 224, 145, 28, 1, 129, 224, 142, 15, 128, 147, 28, 1, 128, 145, 159, 1, 130, 49, 201,
      240, 130, 50, 225, 240, 129, 48, 41, 245, 239, 112, 240, 224, 229, 95, 254, 79, 128, 129,
      128, 147, 187, 0],
    #v[195, 207, 96, 145, 187, 0, 128, 145, 28, 1, 145, 224, 152, 15, 144, 147, 28, 1, 107, 208,
      129, 17, 184, 207, 31, 123, 182, 207, 231, 112, 240, 224, 237, 95, 254, 79, 234, 207, 224,
      145, 29, 1, 240, 145, 30, 1, 132, 145, 49, 150, 240, 147, 30, 1, 224, 147, 29, 1, 224, 207,
      143, 239, 222, 207, 96, 145, 187, 0, 128, 145, 28, 1, 145, 224, 152, 15, 144, 147, 28, 1, 76,
      208, 128, 145, 159, 1, 130, 52, 9, 240, 58, 192, 31, 123, 129, 47, 128, 104, 128, 147, 188,
      0, 128, 145, 29, 1, 144, 145, 30, 1, 129, 21, 236, 231, 158, 7, 104, 245, 252, 1, 144, 146,
      87, 0, 232, 149, 7, 182],
    #v[0, 252, 253, 207, 175, 225, 177, 224, 172, 1, 79, 81, 81, 64, 44, 145, 250, 1, 234, 15, 251,
      31, 17, 150, 60, 145, 17, 151, 9, 1, 0, 147, 87, 0, 232, 149, 17, 36, 18, 150, 234, 22, 251,
      6, 129, 247, 156, 1, 32, 88, 63, 79, 48, 147, 30, 1, 32, 147, 29, 1, 252, 1, 208, 146, 87, 0,
      232, 149, 7, 182, 0, 252, 253, 207, 192, 146, 87, 0, 232, 149, 16, 146, 28, 1, 44, 152, 16,
      100, 87, 207, 16, 97, 85, 207, 1, 151, 9, 240, 108, 207, 160, 146, 159, 1, 105, 207, 129, 48,
      225, 240, 88, 240, 132, 48, 120, 245, 128, 224, 144, 145, 29, 1, 134, 43, 144, 147, 30, 1],
    #v[128, 147, 29, 1, 10, 192, 99, 48, 80, 244, 131, 229, 151, 224, 144, 147, 2, 1, 128, 147, 1,
      1, 96, 147, 159, 1, 129, 224, 8, 149, 145, 226, 144, 147, 159, 1, 8, 149, 144, 145, 159, 1,
      145, 48, 33, 240, 146, 48, 65, 240, 128, 224, 8, 149, 129, 226, 96, 56, 217, 247, 128, 147,
      159, 1, 248, 207, 97, 17, 2, 192, 146, 225, 235, 207, 146, 226, 97, 48, 137, 247, 231, 207,
      144, 145, 159, 1, 146, 50, 97, 247, 132, 80, 232, 47, 240, 224, 225, 94, 254, 79, 96, 131,
      143, 55, 192, 242, 130, 228, 231, 207, 1, 62, 0, 30, 149, 15, 128, 124, 0, 0, 0, 84, 87, 73,
      66, 79, 79, 84],
    #v[32, 118, 51, 46, 50, 0, 0, 0, 0, 0, 255, 255, 255, 255, 255, 255, 255, 255, 255, 255, 255,
      255, 255, 255, 255, 255, 255, 255, 255, 255, 255, 255, 255, 255, 255, 255, 255, 255, 255,
      255, 255, 255, 255, 255, 255, 255, 255, 255, 255, 255, 255, 255, 255, 255, 255, 255, 255,
      255, 255, 255, 255, 255, 255, 255, 255, 255, 255, 255, 255, 255, 255, 255, 255, 255, 255,
      255, 255, 255, 255, 255, 255, 255, 255, 255, 255, 255, 255, 255, 255, 255, 255, 255, 255,
      255, 255, 255, 255, 255, 255, 255, 255, 255, 255, 255, 255, 255, 255, 255, 255, 255, 255,
      255, 255, 255, 255, 255, 255, 255, 255, 255, 255, 255, 255, 255, 255, 255, 255, 255],
    newTwibootImage 7]

/-- `twiboot-prev-081c2954.hex`. -/
def prevNew2Twiboot : Section :=
  sectionOf #v[
    #v[17, 36, 132, 183, 142, 187, 20, 190, 224, 230, 240, 224, 136, 225, 128, 131, 16, 130, 17,
      224, 160, 224, 177, 224, 238, 236, 254, 231, 2, 192, 5, 144, 13, 146, 170, 49, 177, 7, 217,
      247, 33, 224, 170, 225, 177, 224, 1, 192, 29, 146, 174, 57, 178, 7, 225, 247, 128, 227, 132,
      185, 45, 154, 240, 224, 224, 224, 133, 145, 148, 145, 1, 150, 17, 244, 16, 146, 0, 1, 136,
      224, 139, 189, 133, 224, 133, 189, 138, 177, 135, 120, 138, 185, 139, 177, 136, 103, 139,
      185, 134, 233, 0, 0, 129, 80, 233, 247, 137, 177, 131, 251, 136, 39, 128, 249, 145, 224, 137,
      39, 76, 155, 130, 96, 77, 155, 132, 96, 78, 155],
    #v[136, 96, 143, 95, 136, 15, 128, 147, 186, 0, 132, 228, 128, 147, 188, 0, 131, 224, 232, 46,
      205, 233, 209, 224, 1, 224, 149, 224, 249, 46, 33, 225, 210, 46, 48, 226, 195, 46, 65, 226,
      180, 46, 128, 145, 157, 1, 129, 50, 57, 244, 16, 146, 188, 0, 21, 188, 21, 184, 240, 224,
      224, 224, 9, 149, 128, 145, 188, 0, 135, 255, 24, 192, 16, 145, 188, 0, 128, 145, 185, 0,
      136, 127, 128, 58, 9, 244, 113, 192, 56, 245, 128, 56, 9, 244, 69, 192, 136, 56, 9, 244, 97,
      192, 128, 54, 9, 240, 171, 192, 16, 146, 26, 1, 44, 154, 16, 104, 16, 147, 188, 0, 168, 155,
      215, 207, 246, 188, 133, 177],
    #v[140, 37, 133, 185, 128, 145, 0, 1, 136, 35, 97, 240, 138, 181, 143, 95, 138, 189, 136, 48,
      56, 240, 26, 188, 139, 181, 130, 48, 8, 244, 147, 192, 129, 80, 139, 189, 5, 187, 193, 207,
      136, 59, 73, 240, 128, 60, 9, 244, 133, 192, 136, 58, 9, 240, 133, 192, 16, 146, 26, 1, 44,
      154, 224, 145, 26, 1, 129, 224, 142, 15, 128, 147, 26, 1, 128, 145, 157, 1, 130, 49, 201,
      240, 130, 50, 225, 240, 129, 48, 41, 245, 239, 112, 240, 224, 231, 95, 254, 79, 128, 129,
      128, 147, 187, 0, 196, 207, 96, 145, 187, 0, 128, 145, 26, 1, 145, 224, 152, 15, 144, 147,
      26, 1, 107, 208, 129, 17, 185, 207],
    #v[31, 123, 183, 207, 231, 112, 240, 224, 239, 95, 254, 79, 234, 207, 224, 145, 27, 1, 240,
      145, 28, 1, 132, 145, 49, 150, 240, 147, 28, 1, 224, 147, 27, 1, 224, 207, 143, 239, 222,
      207, 96, 145, 187, 0, 128, 145, 26, 1, 145, 224, 152, 15, 144, 147, 26, 1, 76, 208, 128, 145,
      157, 1, 130, 52, 9, 240, 58, 192, 31, 123, 129, 47, 128, 104, 128, 147, 188, 0, 128, 145, 27,
      1, 144, 145, 28, 1, 129, 21, 236, 231, 158, 7, 104, 245, 252, 1, 224, 146, 87, 0, 232, 149,
      7, 182, 0, 252, 253, 207, 173, 225, 177, 224, 172, 1, 77, 81, 81, 64, 44, 145, 250, 1, 234,
      15, 251, 31, 17, 150],
    #v[60, 145, 17, 151, 9, 1, 0, 147, 87, 0, 232, 149, 17, 36, 18, 150, 202, 23, 219, 7, 129, 247,
      156, 1, 32, 88, 63, 79, 48, 147, 28, 1, 32, 147, 27, 1, 252, 1, 240, 146, 87, 0, 232, 149, 7,
      182, 0, 252, 253, 207, 208, 146, 87, 0, 232, 149, 16, 146, 26, 1, 44, 152, 16, 100, 88, 207,
      16, 97, 86, 207, 129, 48, 9, 240, 108, 207, 176, 146, 157, 1, 105, 207, 129, 48, 193, 240,
      88, 240, 132, 48, 88, 245, 128, 224, 144, 145, 27, 1, 134, 43, 144, 147, 28, 1, 128, 147, 27,
      1, 6, 192, 99, 48, 48, 244, 138, 238, 139, 189, 96, 147, 157, 1, 129, 224, 8, 149, 145, 226],
    #v[144, 147, 157, 1, 8, 149, 144, 145, 157, 1, 145, 48, 33, 240, 146, 48, 65, 240, 128, 224, 8,
      149, 129, 226, 96, 56, 217, 247, 128, 147, 157, 1, 248, 207, 97, 17, 2, 192, 146, 225, 235,
      207, 146, 226, 97, 48, 137, 247, 231, 207, 144, 145, 157, 1, 146, 50, 97, 247, 132, 80, 232,
      47, 240, 224, 227, 94, 254, 79, 96, 131, 143, 55, 192, 242, 130, 228, 231, 207, 1, 30, 149,
      15, 128, 124, 0, 0, 0, 84, 87, 73, 66, 79, 79, 84, 32, 118, 51, 46, 50, 0, 0, 0, 0, 0, 255,
      255, 255, 255, 255, 255, 255, 255, 255, 255, 255, 255, 255, 255, 255, 255, 255, 255, 255,
      255, 255, 255, 255, 255],
    blankPage,
    newTwibootImage 7]

/-- `twiboot-prev-c65e3dbf.hex`. -/
def prevNew3Twiboot : Section :=
  sectionOf #v[
    #v[17, 36, 132, 183, 142, 187, 20, 190, 224, 230, 240, 224, 136, 225, 128, 131, 16, 130, 17,
      224, 160, 224, 177, 224, 238, 239, 254, 231, 2, 192, 5, 144, 13, 146, 170, 49, 177, 7, 217,
      247, 33, 224, 170, 225, 177, 224, 1, 192, 29, 146, 174, 57, 178, 7, 225, 247, 128, 227, 132,
      185, 45, 154, 240, 224, 224, 224, 133, 145, 148, 145, 1, 150, 17, 244, 16, 146, 0, 1, 136,
      224, 139, 189, 133, 224, 133, 189, 138, 177, 135, 120, 138, 185, 139, 177, 136, 103, 139,
      185, 134, 233, 0, 0, 129, 80, 233, 247, 137, 177, 131, 251, 136, 39, 128, 249, 145, 224, 137,
      39, 76, 155, 130, 96, 77, 155, 132, 96, 78, 155],
    #v[136, 96, 143, 95, 136, 15, 128, 147, 186, 0, 132, 228, 128, 147, 188, 0, 147, 224, 233, 46,
      13, 233, 17, 224, 209, 224, 37, 224, 242, 46, 49, 225, 211, 46, 76, 224, 196, 46, 137, 224,
      184, 46, 128, 145, 157, 1, 129, 50, 57, 244, 16, 146, 188, 0, 21, 188, 21, 184, 240, 224,
      224, 224, 9, 149, 128, 145, 188, 0, 135, 255, 24, 192, 192, 145, 188, 0, 128, 145, 185, 0,
      136, 127, 128, 58, 9, 244, 124, 192, 64, 245, 128, 56, 9, 244, 71, 192, 136, 56, 9, 244, 108,
      192, 128, 54, 9, 240, 182, 192, 16, 146, 26, 1, 44, 154, 192, 104, 192, 147, 188, 0, 168,
      155, 215, 207, 246, 188, 133, 177],
    #v[144, 226, 137, 39, 133, 185, 128, 145, 0, 1, 136, 35, 97, 240, 138, 181, 143, 95, 138, 189,
      136, 48, 56, 240, 26, 188, 139, 181, 130, 48, 8, 244, 157, 192, 129, 80, 139, 189, 213, 187,
      190, 207, 136, 59, 73, 240, 128, 60, 9, 244, 143, 192, 136, 58, 9, 240, 143, 192, 16, 146,
      26, 1, 44, 154, 128, 145, 26, 1, 145, 224, 152, 15, 144, 147, 26, 1, 144, 145, 157, 1, 146,
      49, 209, 240, 146, 50, 49, 241, 145, 48, 121, 245, 143, 112, 232, 47, 240, 224, 231, 95, 254,
      79, 128, 129, 128, 147, 187, 0, 194, 207, 96, 145, 187, 0, 128, 145, 26, 1, 145, 224, 152,
      15, 144, 147, 26, 1, 117, 208],
    #v[129, 17, 183, 207, 207, 123, 181, 207, 108, 45, 173, 208, 233, 47, 240, 224, 152, 48, 24,
      244, 239, 95, 254, 79, 230, 207, 56, 151, 176, 146, 87, 0, 132, 145, 226, 207, 224, 145, 27,
      1, 240, 145, 28, 1, 132, 145, 49, 150, 240, 147, 28, 1, 224, 147, 27, 1, 215, 207, 143, 239,
      213, 207, 96, 145, 187, 0, 128, 145, 26, 1, 145, 224, 152, 15, 144, 147, 26, 1, 77, 208, 128,
      145, 157, 1, 130, 52, 9, 240, 58, 192, 207, 123, 140, 47, 128, 104, 128, 147, 188, 0, 128,
      145, 27, 1, 144, 145, 28, 1, 129, 21, 236, 231, 158, 7, 104, 245, 252, 1, 224, 146, 87, 0,
      232, 149, 7, 182, 0, 252],
    #v[253, 207, 173, 225, 177, 224, 172, 1, 77, 81, 81, 64, 44, 145, 250, 1, 234, 15, 251, 31, 17,
      150, 60, 145, 17, 151, 9, 1, 208, 147, 87, 0, 232, 149, 17, 36, 18, 150, 10, 23, 27, 7, 129,
      247, 156, 1, 32, 88, 63, 79, 48, 147, 28, 1, 32, 147, 27, 1, 252, 1, 240, 146, 87, 0, 232,
      149, 7, 182, 0, 252, 253, 207, 208, 146, 87, 0, 232, 149, 16, 146, 26, 1, 44, 152, 192, 100,
      77, 207, 192, 97, 75, 207, 129, 48, 9, 240, 98, 207, 129, 226, 128, 147, 157, 1, 94, 207,
      129, 48, 193, 240, 88, 240, 132, 48, 88, 245, 128, 224, 144, 145, 27, 1, 134, 43, 144, 147,
      28, 1],
    #v[128, 147, 27, 1, 6, 192, 99, 48, 48, 244, 138, 238, 139, 189, 96, 147, 157, 1, 129, 224, 8,
      149, 145, 226, 144, 147, 157, 1, 8, 149, 144, 145, 157, 1, 145, 48, 33, 240, 146, 48, 65,
      240, 128, 224, 8, 149, 129, 226, 96, 56, 217, 247, 128, 147, 157, 1, 248, 207, 97, 17, 2,
      192, 146, 225, 235, 207, 146, 226, 97, 48, 137, 247, 231, 207, 144, 145, 157, 1, 146, 50, 97,
      247, 132, 80, 232, 47, 240, 224, 227, 94, 254, 79, 96, 131, 143, 55, 192, 242, 130, 228, 231,
      207, 153, 27, 121, 224, 4, 192, 153, 31, 150, 23, 8, 240, 150, 27, 136, 31, 122, 149, 201,
      247, 128, 149, 8, 149, 1, 30],
    #v[149, 15, 128, 124, 0, 0, 0, 83, 70, 2, 11, 255, 255, 255, 255, 255, 255, 255, 255, 255, 255,
      255, 255, 0, 255, 255, 255, 255, 255, 255, 255, 255, 255, 255, 255, 255, 255, 255, 255, 255,
      255, 255, 255, 255, 255, 255, 255, 255, 255, 255, 255, 255, 255, 255, 255, 255, 255, 255,
      255, 255, 255, 255, 255, 255, 255, 255, 255, 255, 255, 255, 255, 255, 255, 255, 255, 255,
      255, 255, 255, 255, 255, 255, 255, 255, 255, 255, 255, 255, 255, 255, 255, 255, 255, 255,
      255, 255, 255, 255, 255, 255, 255, 255, 255, 255, 255, 255, 255, 255, 255, 255, 255, 255,
      255, 255, 255, 255, 255, 255, 255, 255, 255, 255, 255, 255, 255, 255, 255, 255],
    newTwibootImage 7]

/-- What stage 1 makes of the fielded twiboot. -/
def page7Installed : Section := Function.update fieldedTwiboot 7 (newTwibootImage 7)

/-- Every section the classifier knows by its CRC-32. -/
def knownSections : List Section :=
  [newTwibootImage, prevNewTwiboot, prevNew2Twiboot, prevNew3Twiboot, fieldedTwiboot,
    page7Installed]

/-- The CRC-32 of each known section is the one the classifier compares with. -/
theorem known_crcs :
    fullCrc32 newTwibootImage = NEW_TWIBOOT_CRC32 ∧
      fullCrc32 prevNewTwiboot = BOOT_PREV_NEW_CRC32 ∧
      fullCrc32 prevNew2Twiboot = BOOT_PREV_NEW2_CRC32 ∧
      fullCrc32 prevNew3Twiboot = BOOT_PREV_NEW3_CRC32 ∧
      fullCrc32 fieldedTwiboot = BOOT_FIELDED_CRC32 ∧
      fullCrc32 page7Installed = NEW_TWIBOOT_PAGE7_INSTALLED_CRC32 ∧
      pages0_6Crc32 fieldedTwiboot = BOOT_FIELDED_PAGES_0_6_CRC32 := by
  refine ⟨?_, ?_, ?_, ?_, ?_, ?_, ?_⟩
  · decide +kernel
  · decide +kernel
  · decide +kernel
  · decide +kernel
  · decide +kernel
  · decide +kernel
  · decide +kernel

theorem crc_newTwibootImage : fullCrc32 newTwibootImage = NEW_TWIBOOT_CRC32 := known_crcs.1

theorem crc_prevNewTwiboot : fullCrc32 prevNewTwiboot = BOOT_PREV_NEW_CRC32 := known_crcs.2.1

theorem crc_prevNew2Twiboot : fullCrc32 prevNew2Twiboot = BOOT_PREV_NEW2_CRC32 :=
  known_crcs.2.2.1

theorem crc_prevNew3Twiboot : fullCrc32 prevNew3Twiboot = BOOT_PREV_NEW3_CRC32 :=
  known_crcs.2.2.2.1

theorem crc_fieldedTwiboot : fullCrc32 fieldedTwiboot = BOOT_FIELDED_CRC32 :=
  known_crcs.2.2.2.2.1

theorem crc_page7Installed : fullCrc32 page7Installed = NEW_TWIBOOT_PAGE7_INSTALLED_CRC32 :=
  known_crcs.2.2.2.2.2.1

theorem crc_fieldedPages : pages0_6Crc32 fieldedTwiboot = BOOT_FIELDED_PAGES_0_6_CRC32 :=
  known_crcs.2.2.2.2.2.2

/-- No image starts as a half done rewrite does. -/
theorem known_not_trampoline {sec : Section} (h : sec ∈ knownSections) :
    bootPage0IsTrampoline sec = false := by
  have hknown : knownSections.all (fun known => !bootPage0IsTrampoline known) = true := by
    decide +kernel
  simpa using List.all_eq_true.mp hknown sec h

/-- CRC-32 does not collide here: a section that has the CRC-32 of a known one
is that one, and so are the pages 0 to 6 of it. -/
structure NoCollision (sec : Section) : Prop where
  full : ∀ known ∈ knownSections, fullCrc32 sec = fullCrc32 known → sec = known
  pages : pages0_6Crc32 sec = pages0_6Crc32 fieldedTwiboot → ∀ p < 7, sec p = fieldedTwiboot p

end SplitFlap.Boot
