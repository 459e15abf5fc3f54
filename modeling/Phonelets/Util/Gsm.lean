import Mathlib.Data.List.Basic

/-! # The GSM alphabet

The conversion tables of `util.c` and the conversions between UTF-8 and GSM septets
that use them. A dialect has a locking shift table, which replaces the basic
alphabet, and a single shift table, which is used for the septet after an escape.
-/

namespace Phonelets.Gsm

/-- `enum gsm_dialect`, and `enum sms_alphabet` with the same numbers. -/
inductive GsmDialect where
  | default | turkish | spanish | portuguese
  deriving DecidableEq

/-- `GUND`, the code for no character. -/
def gund : ℕ := 0xFFFF

/-! ## Tables -/

/-- GSM to Unicode extension table, for GSM sequences starting with 0x1B. -/
def defExtGsm : List (ℕ × ℕ) :=
  [(0xA, 0xC), (0x14, 0x5E), (0x1B, 0x20), (0x28, 0x7B), (0x29, 0x7D), (0x2F, 0x5C), (0x3C, 0x5B),
    (0x3D, 0x7E), (0x3E, 0x5D), (0x40, 0x7C), (0x65, 0x20AC)]

def defExtUnicode : List (ℕ × ℕ) :=
  [(0xC, 0x1B0A), (0x5B, 0x1B3C), (0x5C, 0x1B2F), (0x5D, 0x1B3E), (0x5E, 0x1B14), (0x7B, 0x1B28),
    (0x7C, 0x1B40), (0x7D, 0x1B29), (0x7E, 0x1B3D), (0x20AC, 0x1B65)]

/-- Appendix A.2.1 in 3GPP TS23.038. -/
def turExtGsm : List (ℕ × ℕ) :=
  [(0xA, 0xC), (0x14, 0x5E), (0x1B, 0x20), (0x28, 0x7B), (0x29, 0x7D), (0x2F, 0x5C), (0x3C, 0x5B),
    (0x3D, 0x7E), (0x3E, 0x5D), (0x40, 0x7C), (0x47, 0x11E), (0x49, 0x130), (0x53, 0x15E),
    (0x63, 0xE7), (0x65, 0x20AC), (0x67, 0x11F), (0x69, 0x131), (0x73, 0x15F)]

def turExtUnicode : List (ℕ × ℕ) :=
  [(0xC, 0x1B0A), (0x5B, 0x1B3C), (0x5C, 0x1B2F), (0x5D, 0x1B3E), (0x5E, 0x1B14), (0x7B, 0x1B28),
    (0x7C, 0x1B40), (0x7D, 0x1B29), (0x7E, 0x1B3D), (0xE7, 0x1B63), (0x11E, 0x1B47),
    (0x11F, 0x1B67), (0x130, 0x1B49), (0x131, 0x1B69), (0x15E, 0x1B53), (0x15F, 0x1B73),
    (0x20AC, 0x1B65)]

/-- Appendix A.2.2 in 3GPP TS23.038. -/
def spaExtGsm : List (ℕ × ℕ) :=
  [(0x9, 0xE7), (0xA, 0xC), (0x14, 0x5E), (0x1B, 0x20), (0x28, 0x7B), (0x29, 0x7D), (0x2F, 0x5C),
    (0x3C, 0x5B), (0x3D, 0x7E), (0x3E, 0x5D), (0x40, 0x7C), (0x41, 0xC1), (0x49, 0xCD),
    (0x4F, 0xD3), (0x55, 0xDA), (0x61, 0xE1), (0x65, 0x20AC), (0x69, 0xED), (0x6F, 0xF3),
    (0x75, 0xFA)]

def spaExtUnicode : List (ℕ × ℕ) :=
  [(0xC, 0x1B0A), (0x5B, 0x1B3C), (0x5C, 0x1B2F), (0x5D, 0x1B3E), (0x5E, 0x1B14), (0x7B, 0x1B28),
    (0x7C, 0x1B40), (0x7D, 0x1B29), (0x7E, 0x1B3D), (0xC1, 0x1B41), (0xCD, 0x1B49), (0xD3, 0x1B4F),
    (0xDA, 0x1B55), (0xE1, 0x1B61), (0xE7, 0x1B09), (0xED, 0x1B69), (0xF3, 0x1B6F), (0xFA, 0x1B75),
    (0x20AC, 0x1B65)]

/-- Appendix A.2.3 in 3GPP TS23.038. -/
def porExtGsm : List (ℕ × ℕ) :=
  [(0x5, 0xEA), (0x9, 0xE7), (0xA, 0xC), (0xB, 0xD4), (0xC, 0xF4), (0xE, 0xC1), (0xF, 0xE1),
    (0x12, 0x3A6), (0x13, 0x393), (0x14, 0x5E), (0x15, 0x3A9), (0x16, 0x3A0), (0x17, 0x3A8),
    (0x18, 0x3A3), (0x19, 0x398), (0x1B, 0x20), (0x1F, 0xCA), (0x28, 0x7B), (0x29, 0x7D),
    (0x2F, 0x5C), (0x3C, 0x5B), (0x3D, 0x7E), (0x3E, 0x5D), (0x40, 0x7C), (0x41, 0xC0),
    (0x49, 0xCD), (0x4F, 0xD3), (0x55, 0xDA), (0x5B, 0xC3), (0x5C, 0xD5), (0x61, 0xC2),
    (0x65, 0x20AC), (0x69, 0xED), (0x6F, 0xF3), (0x75, 0xFA), (0x7B, 0xE3), (0x7C, 0xF5),
    (0x7F, 0xE2)]

def porExtUnicode : List (ℕ × ℕ) :=
  [(0xC, 0x1B0A), (0x5B, 0x1B3C), (0x5C, 0x1B2F), (0x5D, 0x1B3E), (0x5E, 0x1B14), (0x7B, 0x1B28),
    (0x7C, 0x1B40), (0x7D, 0x1B29), (0x7E, 0x1B3D), (0xC0, 0x1B41), (0xC1, 0x1B0E), (0xC2, 0x1B61),
    (0xC3, 0x1B5B), (0xCA, 0x1B1F), (0xCD, 0x1B49), (0xD3, 0x1B4F), (0xD4, 0x1B0B), (0xD5, 0x1B5C),
    (0xDA, 0x1B55), (0xE1, 0x1B0F), (0xE2, 0x1B7F), (0xE3, 0x1B7B), (0xE7, 0x1B09), (0xEA, 0x1B05),
    (0xED, 0x1B69), (0xF3, 0x1B6F), (0xF4, 0x1B0C), (0xF5, 0x1B7C), (0xFA, 0x1B75), (0x393, 0x1B13),
    (0x398, 0x1B19), (0x3A0, 0x1B16), (0x3A3, 0x1B18), (0x3A6, 0x1B12), (0x3A8, 0x1B17),
    (0x3A9, 0x1B15), (0x20AC, 0x1B65)]

/-- Used for conversion of GSM to Unicode. -/
def defGsm : List ℕ :=
  [0x40, 0xA3, 0x24, 0xA5, 0xE8, 0xE9, 0xF9, 0xEC, 0xF2, 0xC7, 0xA, 0xD8, 0xF8, 0xD, 0xC5, 0xE5,
    0x394, 0x5F, 0x3A6, 0x393, 0x39B, 0x3A9, 0x3A0, 0x3A8, 0x3A3, 0x398, 0x39E, 0xA0, 0xC6, 0xE6,
    0xDF, 0xC9, 0x20, 0x21, 0x22, 0x23, 0xA4, 0x25, 0x26, 0x27, 0x28, 0x29, 0x2A, 0x2B, 0x2C, 0x2D,
    0x2E, 0x2F, 0x30, 0x31, 0x32, 0x33, 0x34, 0x35, 0x36, 0x37, 0x38, 0x39, 0x3A, 0x3B, 0x3C, 0x3D,
    0x3E, 0x3F, 0xA1, 0x41, 0x42, 0x43, 0x44, 0x45, 0x46, 0x47, 0x48, 0x49, 0x4A, 0x4B, 0x4C, 0x4D,
    0x4E, 0x4F, 0x50, 0x51, 0x52, 0x53, 0x54, 0x55, 0x56, 0x57, 0x58, 0x59, 0x5A, 0xC4, 0xD6, 0xD1,
    0xDC, 0xA7, 0xBF, 0x61, 0x62, 0x63, 0x64, 0x65, 0x66, 0x67, 0x68, 0x69, 0x6A, 0x6B, 0x6C, 0x6D,
    0x6E, 0x6F, 0x70, 0x71, 0x72, 0x73, 0x74, 0x75, 0x76, 0x77, 0x78, 0x79, 0x7A, 0xE4, 0xF6, 0xF1,
    0xFC, 0xE0]

/-- Used for conversion of Unicode to GSM. -/
def defUnicode : List (ℕ × ℕ) :=
  [(0xA, 0xA), (0xD, 0xD), (0x20, 0x20), (0x21, 0x21), (0x22, 0x22), (0x23, 0x23), (0x24, 0x2),
    (0x25, 0x25), (0x26, 0x26), (0x27, 0x27), (0x28, 0x28), (0x29, 0x29), (0x2A, 0x2A),
    (0x2B, 0x2B), (0x2C, 0x2C), (0x2D, 0x2D), (0x2E, 0x2E), (0x2F, 0x2F), (0x30, 0x30),
    (0x31, 0x31), (0x32, 0x32), (0x33, 0x33), (0x34, 0x34), (0x35, 0x35), (0x36, 0x36),
    (0x37, 0x37), (0x38, 0x38), (0x39, 0x39), (0x3A, 0x3A), (0x3B, 0x3B), (0x3C, 0x3C),
    (0x3D, 0x3D), (0x3E, 0x3E), (0x3F, 0x3F), (0x40, 0), (0x41, 0x41), (0x42, 0x42), (0x43, 0x43),
    (0x44, 0x44), (0x45, 0x45), (0x46, 0x46), (0x47, 0x47), (0x48, 0x48), (0x49, 0x49),
    (0x4A, 0x4A), (0x4B, 0x4B), (0x4C, 0x4C), (0x4D, 0x4D), (0x4E, 0x4E), (0x4F, 0x4F),
    (0x50, 0x50), (0x51, 0x51), (0x52, 0x52), (0x53, 0x53), (0x54, 0x54), (0x55, 0x55),
    (0x56, 0x56), (0x57, 0x57), (0x58, 0x58), (0x59, 0x59), (0x5A, 0x5A), (0x5F, 0x11),
    (0x61, 0x61), (0x62, 0x62), (0x63, 0x63), (0x64, 0x64), (0x65, 0x65), (0x66, 0x66),
    (0x67, 0x67), (0x68, 0x68), (0x69, 0x69), (0x6A, 0x6A), (0x6B, 0x6B), (0x6C, 0x6C),
    (0x6D, 0x6D), (0x6E, 0x6E), (0x6F, 0x6F), (0x70, 0x70), (0x71, 0x71), (0x72, 0x72),
    (0x73, 0x73), (0x74, 0x74), (0x75, 0x75), (0x76, 0x76), (0x77, 0x77), (0x78, 0x78),
    (0x79, 0x79), (0x7A, 0x7A), (0xA0, 0x20), (0xA1, 0x40), (0xA3, 0x1), (0xA4, 0x24), (0xA5, 0x3),
    (0xA7, 0x5F), (0xBF, 0x60), (0xC4, 0x5B), (0xC5, 0xE), (0xC6, 0x1C), (0xC7, 0x9), (0xC9, 0x1F),
    (0xD1, 0x5D), (0xD6, 0x5C), (0xD8, 0xB), (0xDC, 0x5E), (0xDF, 0x1E), (0xE0, 0x7F), (0xE4, 0x7B),
    (0xE5, 0xF), (0xE6, 0x1D), (0xE8, 0x4), (0xE9, 0x5), (0xEC, 0x7), (0xF1, 0x7D), (0xF2, 0x8),
    (0xF6, 0x7C), (0xF8, 0xC), (0xF9, 0x6), (0xFC, 0x7E), (0x393, 0x13), (0x394, 0x10),
    (0x398, 0x19), (0x39B, 0x14), (0x39E, 0x1A), (0x3A0, 0x16), (0x3A3, 0x18), (0x3A6, 0x12),
    (0x3A8, 0x17), (0x3A9, 0x15)]

/-- Appendix A.3.1 in 3GPP TS23.038. -/
def turGsm : List ℕ :=
  [0x40, 0xA3, 0x24, 0xA5, 0x20AC, 0xE9, 0xF9, 0x131, 0xF2, 0xC7, 0xA, 0x11E, 0x11F, 0xD, 0xC5,
    0xE5, 0x394, 0x5F, 0x3A6, 0x393, 0x39B, 0x3A9, 0x3A0, 0x3A8, 0x3A3, 0x398, 0x39E, 0xA0, 0x15E,
    0x15F, 0xDF, 0xC9, 0x20, 0x21, 0x22, 0x23, 0xA4, 0x25, 0x26, 0x27, 0x28, 0x29, 0x2A, 0x2B, 0x2C,
    0x2D, 0x2E, 0x2F, 0x30, 0x31, 0x32, 0x33, 0x34, 0x35, 0x36, 0x37, 0x38, 0x39, 0x3A, 0x3B, 0x3C,
    0x3D, 0x3E, 0x3F, 0x130, 0x41, 0x42, 0x43, 0x44, 0x45, 0x46, 0x47, 0x48, 0x49, 0x4A, 0x4B, 0x4C,
    0x4D, 0x4E, 0x4F, 0x50, 0x51, 0x52, 0x53, 0x54, 0x55, 0x56, 0x57, 0x58, 0x59, 0x5A, 0xC4, 0xD6,
    0xD1, 0xDC, 0xA7, 0xE7, 0x61, 0x62, 0x63, 0x64, 0x65, 0x66, 0x67, 0x68, 0x69, 0x6A, 0x6B, 0x6C,
    0x6D, 0x6E, 0x6F, 0x70, 0x71, 0x72, 0x73, 0x74, 0x75, 0x76, 0x77, 0x78, 0x79, 0x7A, 0xE4, 0xF6,
    0xF1, 0xFC, 0xE0]

def turUnicode : List (ℕ × ℕ) :=
  [(0xA, 0xA), (0xD, 0xD), (0x20, 0x20), (0x21, 0x21), (0x22, 0x22), (0x23, 0x23), (0x24, 0x2),
    (0x25, 0x25), (0x26, 0x26), (0x27, 0x27), (0x28, 0x28), (0x29, 0x29), (0x2A, 0x2A),
    (0x2B, 0x2B), (0x2C, 0x2C), (0x2D, 0x2D), (0x2E, 0x2E), (0x2F, 0x2F), (0x30, 0x30),
    (0x31, 0x31), (0x32, 0x32), (0x33, 0x33), (0x34, 0x34), (0x35, 0x35), (0x36, 0x36),
    (0x37, 0x37), (0x38, 0x38), (0x39, 0x39), (0x3A, 0x3A), (0x3B, 0x3B), (0x3C, 0x3C),
    (0x3D, 0x3D), (0x3E, 0x3E), (0x3F, 0x3F), (0x40, 0), (0x41, 0x41), (0x42, 0x42), (0x43, 0x43),
    (0x44, 0x44), (0x45, 0x45), (0x46, 0x46), (0x47, 0x47), (0x48, 0x48), (0x49, 0x49),
    (0x4A, 0x4A), (0x4B, 0x4B), (0x4C, 0x4C), (0x4D, 0x4D), (0x4E, 0x4E), (0x4F, 0x4F),
    (0x50, 0x50), (0x51, 0x51), (0x52, 0x52), (0x53, 0x53), (0x54, 0x54), (0x55, 0x55),
    (0x56, 0x56), (0x57, 0x57), (0x58, 0x58), (0x59, 0x59), (0x5A, 0x5A), (0x5F, 0x11),
    (0x61, 0x61), (0x62, 0x62), (0x63, 0x63), (0x64, 0x64), (0x65, 0x65), (0x66, 0x66),
    (0x67, 0x67), (0x68, 0x68), (0x69, 0x69), (0x6A, 0x6A), (0x6B, 0x6B), (0x6C, 0x6C),
    (0x6D, 0x6D), (0x6E, 0x6E), (0x6F, 0x6F), (0x70, 0x70), (0x71, 0x71), (0x72, 0x72),
    (0x73, 0x73), (0x74, 0x74), (0x75, 0x75), (0x76, 0x76), (0x77, 0x77), (0x78, 0x78),
    (0x79, 0x79), (0x7A, 0x7A), (0xA0, 0x20), (0xA3, 0x1), (0xA4, 0x24), (0xA5, 0x3), (0xA7, 0x5F),
    (0xC4, 0x5B), (0xC5, 0xE), (0xC7, 0x9), (0xC9, 0x1F), (0xD1, 0x5D), (0xD6, 0x5C), (0xDC, 0x5E),
    (0xDF, 0x1E), (0xE0, 0x7F), (0xE4, 0x7B), (0xE5, 0xF), (0xE7, 0x60), (0xE9, 0x5), (0xF1, 0x7D),
    (0xF2, 0x8), (0xF6, 0x7C), (0xF9, 0x6), (0xFC, 0x7E), (0x11E, 0xB), (0x11F, 0xC), (0x130, 0x40),
    (0x131, 0x7), (0x15E, 0x1C), (0x15F, 0x1D), (0x393, 0x13), (0x394, 0x10), (0x398, 0x19),
    (0x39B, 0x14), (0x39E, 0x1A), (0x3A0, 0x16), (0x3A3, 0x18), (0x3A6, 0x12), (0x3A8, 0x17),
    (0x3A9, 0x15), (0x20AC, 0x4)]

/-- Appendix A.3.2 in 3GPP TS23.038. -/
def porGsm : List ℕ :=
  [0x40, 0xA3, 0x24, 0xA5, 0xEA, 0xE9, 0xFA, 0xED, 0xF3, 0xE7, 0xA, 0xD4, 0xF4, 0xD, 0xC1, 0xE1,
    0x394, 0x5F, 0xAA, 0xC7, 0xC0, 0x221E, 0x5E, 0x5C, 0x20ac, 0xD3, 0x7C, 0xA0, 0xC2, 0xE2, 0xCA,
    0xC9, 0x20, 0x21, 0x22, 0x23, 0xBA, 0x25, 0x26, 0x27, 0x28, 0x29, 0x2A, 0x2B, 0x2C, 0x2D, 0x2E,
    0x2F, 0x30, 0x31, 0x32, 0x33, 0x34, 0x35, 0x36, 0x37, 0x38, 0x39, 0x3A, 0x3B, 0x3C, 0x3D, 0x3E,
    0x3F, 0xCD, 0x41, 0x42, 0x43, 0x44, 0x45, 0x46, 0x47, 0x48, 0x49, 0x4A, 0x4B, 0x4C, 0x4D, 0x4E,
    0x4F, 0x50, 0x51, 0x52, 0x53, 0x54, 0x55, 0x56, 0x57, 0x58, 0x59, 0x5A, 0xC3, 0xD5, 0xDA, 0xDC,
    0xA7, 0x7E, 0x61, 0x62, 0x63, 0x64, 0x65, 0x66, 0x67, 0x68, 0x69, 0x6A, 0x6B, 0x6C, 0x6D, 0x6E,
    0x6F, 0x70, 0x71, 0x72, 0x73, 0x74, 0x75, 0x76, 0x77, 0x78, 0x79, 0x7A, 0xE3, 0xF5, 0x60, 0xFC,
    0xE0]

def porUnicode : List (ℕ × ℕ) :=
  [(0xA, 0xA), (0xD, 0xD), (0x20, 0x20), (0x21, 0x21), (0x22, 0x22), (0x23, 0x23), (0x24, 0x2),
    (0x25, 0x25), (0x26, 0x26), (0x27, 0x27), (0x28, 0x28), (0x29, 0x29), (0x2A, 0x2A),
    (0x2B, 0x2B), (0x2C, 0x2C), (0x2D, 0x2D), (0x2E, 0x2E), (0x2F, 0x2F), (0x30, 0x30),
    (0x31, 0x31), (0x32, 0x32), (0x33, 0x33), (0x34, 0x34), (0x35, 0x35), (0x36, 0x36),
    (0x37, 0x37), (0x38, 0x38), (0x39, 0x39), (0x3A, 0x3A), (0x3B, 0x3B), (0x3C, 0x3C),
    (0x3D, 0x3D), (0x3E, 0x3E), (0x3F, 0x3F), (0x40, 0), (0x41, 0x41), (0x42, 0x42), (0x43, 0x43),
    (0x44, 0x44), (0x45, 0x45), (0x46, 0x46), (0x47, 0x47), (0x48, 0x48), (0x49, 0x49),
    (0x4A, 0x4A), (0x4B, 0x4B), (0x4C, 0x4C), (0x4D, 0x4D), (0x4E, 0x4E), (0x4F, 0x4F),
    (0x50, 0x50), (0x51, 0x51), (0x52, 0x52), (0x53, 0x53), (0x54, 0x54), (0x55, 0x55),
    (0x56, 0x56), (0x57, 0x57), (0x58, 0x58), (0x59, 0x59), (0x5A, 0x5A), (0x5C, 0x17),
    (0x5E, 0x16), (0x5F, 0x11), (0x60, 0x7D), (0x61, 0x61), (0x62, 0x62), (0x63, 0x63),
    (0x64, 0x64), (0x65, 0x65), (0x66, 0x66), (0x67, 0x67), (0x68, 0x68), (0x69, 0x69),
    (0x6A, 0x6A), (0x6B, 0x6B), (0x6C, 0x6C), (0x6D, 0x6D), (0x6E, 0x6E), (0x6F, 0x6F),
    (0x70, 0x70), (0x71, 0x71), (0x72, 0x72), (0x73, 0x73), (0x74, 0x74), (0x75, 0x75),
    (0x76, 0x76), (0x77, 0x77), (0x78, 0x78), (0x79, 0x79), (0x7A, 0x7A), (0x7C, 0x1A),
    (0x7E, 0x60), (0xA0, 0x20), (0xA3, 0x1), (0xA5, 0x3), (0xA7, 0x5F), (0xAA, 0x12), (0xBA, 0x24),
    (0xC0, 0x14), (0xC1, 0xE), (0xC2, 0x1C), (0xC3, 0x5B), (0xC7, 0x13), (0xC9, 0x1F), (0xCA, 0x1E),
    (0xCD, 0x40), (0xD3, 0x19), (0xD4, 0xB), (0xD5, 0x5C), (0xDA, 0x5D), (0xDC, 0x5E), (0xE0, 0x7F),
    (0xE1, 0xF), (0xE2, 0x1D), (0xE3, 0x7B), (0xE7, 0x9), (0xE9, 0x5), (0xEA, 0x4), (0xED, 0x7),
    (0xF3, 0x8), (0xF4, 0xC), (0xF5, 0x7C), (0xFA, 0x6), (0xFC, 0x7E), (0x394, 0x10),
    (0x20AC, 0x18), (0x221E, 0x15)]

/-! ## Lookups -/

/-- `codepoint_lookup`: `bsearch` finds the entry with the key, if the table has one;
the tables are sorted. -/
def codepointLookup (key : ℕ) (table : List (ℕ × ℕ)) : ℕ :=
  match table.find? fun e => e.1 == key with
  | some e => e.2
  | none => gund

/-- `t->locking_g`. -/
def lockingG : GsmDialect → List ℕ
  | .default => defGsm
  | .spanish => defGsm
  | .turkish => turGsm
  | .portuguese => porGsm

/-- `t->locking_u`. -/
def lockingU : GsmDialect → List (ℕ × ℕ)
  | .default => defUnicode
  | .spanish => defUnicode
  | .turkish => turUnicode
  | .portuguese => porUnicode

/-- `t->single_g`. -/
def singleG : GsmDialect → List (ℕ × ℕ)
  | .default => defExtGsm
  | .turkish => turExtGsm
  | .spanish => spaExtGsm
  | .portuguese => porExtGsm

/-- `t->single_u`. -/
def singleU : GsmDialect → List (ℕ × ℕ)
  | .default => defExtUnicode
  | .turkish => turExtUnicode
  | .spanish => spaExtUnicode
  | .portuguese => porExtUnicode

def gsmLockingShiftLookup (locking : GsmDialect) (k : ℕ) : ℕ := (lockingG locking).getD k gund

def gsmSingleShiftLookup (single : GsmDialect) (k : ℕ) : ℕ := codepointLookup k (singleG single)

def unicodeLockingShiftLookup (locking : GsmDialect) (k : ℕ) : ℕ :=
  codepointLookup k (lockingU locking)

def unicodeSingleShiftLookup (single : GsmDialect) (k : ℕ) : ℕ := codepointLookup k (singleU single)

/-! ## Conversions -/

def gUnicharToUtf8 (c : ℕ) : List UInt8 := String.utf8EncodeChar (Char.ofNat c)

/-- `g_utf8_get_char_validated`, nothing for its two error values. -/
def gUtf8GetCharValidated (text : List UInt8) : Option Char := text.toByteArray.utf8DecodeChar? 0

/-- The characters of a text, if all of it is valid; the fuel is its length. -/
def utf8Chars : ℕ → List UInt8 → Option (List Char)
  | _, [] => some []
  | 0, _ :: _ => none
  | n + 1, b :: l => do
      let c ← gUtf8GetCharValidated (b :: l)
      let cs ← utf8Chars n ((b :: l).drop c.utf8Size)
      return c :: cs

/-- The code of a character of the text, an escape pair in two octets. -/
def unicodeToGsm (locking single : GsmDialect) (c : Char) : Option ℕ :=
  if c.toNat > 0xffff then none
  else
    let converted := unicodeLockingShiftLookup locking c.toNat
    let converted :=
      if converted = gund then unicodeSingleShiftLookup single c.toNat else converted
    if converted = gund then none else some converted

/-- What is written for a code. -/
def writeCode (converted : ℕ) : List UInt8 :=
  if converted &&& 0x1b00 ≠ 0 then [0x1b, UInt8.ofNat converted] else [UInt8.ofNat converted]

/-- `convert_utf8_to_gsm_with_lang` without a terminator. An empty result is not
allocated (`g_try_malloc` of 0), so there is none. -/
def convertUtf8ToGsmWithLang (text : List UInt8) (locking single : GsmDialect) :
    Option (List UInt8) := do
  let cs ← utf8Chars text.length text
  let codes ← cs.mapM (unicodeToGsm locking single)
  let res := codes.flatMap writeCode
  if res.isEmpty then none else return res

/-- The first pass of `convert_utf8_to_gsm_with_lang`: `nchars` and `res_len`; the fuel is
the length of the text. -/
def firstPass (locking single : GsmDialect) : ℕ → List UInt8 → Option (ℕ × ℕ)
  | _, [] => some (0, 0)
  | 0, _ :: _ => none
  | n + 1, b :: l => do
      let c ← gUtf8GetCharValidated (b :: l)
      let converted ← unicodeToGsm locking single c
      let r ← firstPass locking single n ((b :: l).drop c.utf8Size)
      return (r.1 + 1, r.2 + if converted &&& 0x1b00 ≠ 0 then 2 else 1)

/-- The second pass, over `nchars` characters that the first one has seen to be valid. -/
def secondPass (locking single : GsmDialect) : ℕ → List UInt8 → List UInt8
  | 0, _ => []
  | n + 1, text =>
    match gUtf8GetCharValidated text with
    | none => []
    | some c =>
      let converted := unicodeLockingShiftLookup locking c.toNat
      let converted :=
        if converted = gund then unicodeSingleShiftLookup single c.toNat else converted
      writeCode converted ++ secondPass locking single n (text.drop c.utf8Size)

def convertUtf8ToGsm (text : List UInt8) : Option (List UInt8) :=
  convertUtf8ToGsmWithLang text .default .default

/-- `convert_utf8_to_gsm_best_lang`: the encoded data, `used_locking` and
`used_single`. -/
def convertUtf8ToGsmBestLang (utf8 : List UInt8) (hint : GsmDialect) :
    Option (List UInt8 × GsmDialect × GsmDialect) :=
  match convertUtf8ToGsmWithLang utf8 .default .default with
  | some encoded => some (encoded, .default, .default)
  | none =>
    if hint = .default then none
    else
      match convertUtf8ToGsmWithLang utf8 .default hint with
      | some encoded => some (encoded, .default, hint)
      | none =>
        if hint = .spanish then none
        else (convertUtf8ToGsmWithLang utf8 hint hint).map fun encoded => (encoded, hint, hint)

/-- The characters of the septets; both passes of the conversion read the same ones.
A code without an entry after an escape is read as if there were no escape. -/
def gsmChars (locking single : GsmDialect) : List UInt8 → Option (List ℕ)
  | [] => some []
  | k :: l =>
    if k > 0x7f then none
    else if k = 0x1b then
      match l with
      | [] => none
      | k :: l =>
        let c := gsmSingleShiftLookup single k.toNat
        let c := if c = gund then gsmLockingShiftLookup locking k.toNat else c
        (gsmChars locking single l).map fun cs => c :: cs
    else (gsmChars locking single l).map fun cs => gsmLockingShiftLookup locking k.toNat :: cs

def convertGsmToUtf8WithLang (text : List UInt8) (locking single : GsmDialect) :
    Option (List UInt8) :=
  (gsmChars locking single text).map fun cs => cs.flatMap gUnicharToUtf8

def convertGsmToUtf8 (text : List UInt8) : Option (List UInt8) :=
  convertGsmToUtf8WithLang text .default .default

end Phonelets.Gsm
