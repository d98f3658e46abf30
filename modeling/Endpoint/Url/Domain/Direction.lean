import Endpoint.Url.Domain.Marks

/-!
Directions of characters, and the rule that a label of a domain name obeys when one of the
labels is written from right to left.
-/

namespace Endpoint.Url.Domain

/-- The direction in which a character is written, or how it follows its neighbours. -/
inductive Direction
  | left
  | right
  | arabic
  | arabicNumber
  | number
  | numberSign
  | numberMark
  | separator
  | neutral
  | boundary
  | mark
deriving DecidableEq, Repr

/-- The directions that the kind of a character does not give: first and last code point, and
the direction. -/
def directionRuns : List (Nat × Nat × Direction) :=
  [
    (0xa1, 0xa1, .neutral), (0xa2, 0xa5, .numberMark), (0xa6, 0xae, .neutral),
    (0xb0, 0xb1, .numberMark), (0xb6, 0xd7, .neutral), (0xf7, 0xf7, .neutral),
    (0x2b9, 0x2ba, .neutral), (0x2c2, 0x2cf, .neutral), (0x2d2, 0x2ed, .neutral),
    (0x2ef, 0x2ff, .neutral), (0x375, 0x375, .neutral), (0x3f6, 0x3f6, .neutral),
    (0x58a, 0x58e, .neutral), (0x58f, 0x58f, .numberMark), (0x5be, 0x5be, .right),
    (0x5c0, 0x5c0, .right), (0x5c3, 0x5c3, .right), (0x5c6, 0x5c6, .right),
    (0x5d0, 0x5f4, .right), (0x606, 0x607, .neutral), (0x608, 0x608, .arabic),
    (0x609, 0x60a, .numberMark), (0x60b, 0x60b, .arabic), (0x60c, 0x60c, .separator),
    (0x60d, 0x60d, .arabic), (0x60e, 0x60f, .neutral), (0x61b, 0x64a, .arabic),
    (0x660, 0x669, .arabicNumber), (0x66a, 0x66a, .numberMark), (0x66b, 0x66c, .arabicNumber),
    (0x66d, 0x66f, .arabic), (0x671, 0x6d5, .arabic), (0x6de, 0x6de, .neutral),
    (0x6e5, 0x6e6, .arabic), (0x6e9, 0x6e9, .neutral), (0x6ee, 0x6ef, .arabic),
    (0x6f0, 0x6f9, .number), (0x6fa, 0x710, .arabic), (0x712, 0x72f, .arabic),
    (0x74d, 0x7a5, .arabic), (0x7b1, 0x7b1, .arabic), (0x7c0, 0x7ea, .right),
    (0x7f4, 0x7f5, .right), (0x7f6, 0x7f9, .neutral), (0x7fa, 0x7fa, .right),
    (0x7fe, 0x815, .right), (0x81a, 0x81a, .right), (0x824, 0x824, .right),
    (0x828, 0x828, .right), (0x830, 0x858, .right), (0x85e, 0x85e, .right),
    (0x860, 0x88f, .arabic), (0x8a0, 0x8c9, .arabic), (0x9f2, 0x9f3, .numberMark),
    (0x9fb, 0x9fb, .numberMark), (0xaf1, 0xaf1, .numberMark), (0xbf3, 0xbf8, .neutral),
    (0xbf9, 0xbf9, .numberMark), (0xbfa, 0xbfa, .neutral), (0xc78, 0xc7e, .neutral),
    (0xcbf, 0xcbf, .left), (0xcc6, 0xcc6, .left), (0xe3f, 0xe3f, .numberMark),
    (0xf3a, 0xf3d, .neutral), (0x1390, 0x1399, .neutral), (0x1400, 0x1400, .neutral),
    (0x169b, 0x169c, .neutral), (0x17db, 0x17db, .numberMark), (0x17f0, 0x180a, .neutral),
    (0x1940, 0x1945, .neutral), (0x19de, 0x19ff, .neutral), (0x200c, 0x200d, .boundary),
    (0x2010, 0x2027, .neutral), (0x2030, 0x2032, .numberMark), (0x2035, 0x2043, .neutral),
    (0x2044, 0x2044, .separator), (0x2045, 0x205e, .neutral), (0x20a0, 0x20c1, .numberMark),
    (0x2104, 0x2129, .neutral), (0x212e, 0x212e, .numberMark), (0x213a, 0x214d, .neutral),
    (0x218a, 0x2211, .neutral), (0x2212, 0x2212, .numberSign), (0x2213, 0x2213, .numberMark),
    (0x2214, 0x2335, .neutral), (0x237b, 0x2394, .neutral), (0x2396, 0x26ab, .neutral),
    (0x26ad, 0x27ff, .neutral), (0x2900, 0x2bff, .neutral), (0x2ce5, 0x2cea, .neutral),
    (0x2cf9, 0x2cff, .neutral), (0x2e00, 0x3004, .neutral), (0x3008, 0x3020, .neutral),
    (0x3030, 0x3030, .neutral), (0x3037, 0x3037, .neutral), (0x303d, 0x303f, .neutral),
    (0x30a0, 0x30a0, .neutral), (0x30fb, 0x30fb, .neutral), (0x31c0, 0x31e5, .neutral),
    (0x4dc0, 0x4dff, .neutral), (0xa490, 0xa4c6, .neutral), (0xa60d, 0xa60f, .neutral),
    (0xa673, 0xa673, .neutral), (0xa67e, 0xa67f, .neutral), (0xa700, 0xa721, .neutral),
    (0xa788, 0xa788, .neutral), (0xa828, 0xa82b, .neutral), (0xa838, 0xa839, .numberMark),
    (0xa874, 0xa877, .neutral), (0xab6a, 0xab6b, .neutral), (0xfbb2, 0xfbc2, .arabic),
    (0xfbc3, 0xfdff, .neutral), (0xfe45, 0xfe46, .neutral), (0xfe73, 0xfe73, .arabic),
    (0x10101, 0x10101, .neutral), (0x10140, 0x1018c, .neutral), (0x10190, 0x101a0, .neutral),
    (0x102e1, 0x102fb, .number), (0x10800, 0x1091b, .right), (0x1091f, 0x1091f, .neutral),
    (0x10920, 0x10a00, .right), (0x10a10, 0x10a35, .right), (0x10a40, 0x10ae4, .right),
    (0x10aeb, 0x10b35, .right), (0x10b39, 0x10b3f, .neutral), (0x10b40, 0x10cff, .right),
    (0x10d00, 0x10d23, .arabic), (0x10d30, 0x10d39, .arabicNumber), (0x10d40, 0x10d4f, .right),
    (0x10d6e, 0x10d6e, .neutral), (0x10d6f, 0x10d8f, .right), (0x10e60, 0x10e7e, .arabicNumber),
    (0x10e80, 0x10ea9, .right), (0x10ead, 0x10eb1, .right), (0x10ec2, 0x10ec7, .arabic),
    (0x10ed0, 0x10ed8, .neutral), (0x10f00, 0x10f27, .right), (0x10f30, 0x10f45, .arabic),
    (0x10f51, 0x10f59, .arabic), (0x10f70, 0x10f81, .right), (0x10f86, 0x10ff6, .right),
    (0x11052, 0x11065, .neutral), (0x11660, 0x1166c, .neutral), (0x1171e, 0x1171e, .mark),
    (0x11a07, 0x11a08, .left), (0x11c3f, 0x11c3f, .left), (0x11fd5, 0x11fdc, .neutral),
    (0x11fdd, 0x11fe0, .numberMark), (0x11fe1, 0x11ff1, .neutral), (0x16fe2, 0x16fe2, .neutral),
    (0x1cc00, 0x1cef0, .neutral), (0x1d1e9, 0x1d241, .neutral), (0x1d245, 0x1d245, .neutral),
    (0x1d300, 0x1d356, .neutral), (0x1e2ff, 0x1e2ff, .numberMark), (0x1e800, 0x1e8cf, .right),
    (0x1e922, 0x1e943, .right), (0x1e94b, 0x1e95f, .right), (0x1ec71, 0x1ed3d, .arabic),
    (0x1eef0, 0x1f12f, .neutral), (0x1f16d, 0x1f16f, .neutral), (0x1f1ad, 0x1f1ad, .neutral),
    (0x1f260, 0x1fbfa, .neutral)]

/-- The direction of an ASCII character. -/
def asciiDirection (c : Char) : Direction :=
  if c.isAlpha then .left
  else if c.isDigit then .number
  else if c == '+' || c == '-' then .numberSign
  else if c == '$' then .numberMark
  else if c == ',' then .separator
  else .neutral

/-- The direction of a character: that of the table, else marks follow the character before them
and all others go from left to right. -/
def Direction.ofChar (c : Char) : Direction :=
  if c.toNat < 128 then asciiDirection c
  else
    match directionRuns.find? fun run => run.1 ≤ c.toNat && c.toNat ≤ run.2.1 with
    | some run => run.2.2
    | none => if isNonspacing c then .mark else .left

/-- Whether the direction makes a domain name one with text from right to left. -/
def Direction.isBackward : Direction → Bool
  | .right | .arabic | .arabicNumber => true
  | _ => false

/-- Whether the direction may stand anywhere behind the first character, in text of either
direction. -/
def Direction.isShared : Direction → Bool
  | .number | .numberSign | .numberMark | .separator | .neutral | .boundary | .mark => true
  | _ => false

/-- The direction of the last character that is no mark. -/
def lastDirection? (directions : List Direction) : Option Direction :=
  directions.reverse.find? (· != .mark)

/-- Whether a label that begins from left to right stays so. -/
def obeysForward (directions : List Direction) : Bool :=
  directions.all (fun d => d == .left || d.isShared) &&
    (lastDirection? directions).any fun d => d == .left || d == .number

/-- Whether a label that begins from right to left stays so, with numbers of one kind. -/
def obeysBackward (directions : List Direction) : Bool :=
  directions.all (fun d => d.isBackward || d.isShared) &&
    (lastDirection? directions).any (fun d => d.isBackward || d == .number) &&
    !(directions.contains .number && directions.contains .arabicNumber)

/-- Whether the characters of a label go one way. -/
def obeysDirection (label : List Char) : Bool :=
  let directions := label.map Direction.ofChar
  match directions.head? with
  | none => true
  | some .left => obeysForward directions
  | some .right | some .arabic => obeysBackward directions
  | some _ => false

end Endpoint.Url.Domain
