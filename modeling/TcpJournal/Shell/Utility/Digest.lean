import TcpJournal.Shell.Utility.Options

/-!
# Digests

Sums of files in 128 to 512 bits, shown in hexadecimal digits.  A text is cut to
blocks with its length at the end, and each block stirs the words of the sum.
-/

namespace TcpJournal

namespace Shell

namespace Utility

open Shell.Program

/-- A text in blocks of 64 bytes, with its length in bits at the end. -/
def hashBlocks (bigEndian : Bool) (text : Chars) : List (Array UInt32) :=
  let bits := 8 * text.length
  let padding := List.replicate ((119 - text.length % 64) % 64) (0 : Nat)
  let size := (List.range 8).map fun i => bits / 256 ^ (if bigEndian then 7 - i else i) % 256
  let bytes := (text.map Char.toNat ++ 0x80 :: padding ++ size).toArray
  (List.range (bytes.size / 64)).map fun b =>
    ((List.range 16).map fun w =>
      let byte (i : Nat) : Nat := bytes.getD (64 * b + 4 * w + i) 0
      UInt32.ofNat
        (if bigEndian then ((byte 0 * 256 + byte 1) * 256 + byte 2) * 256 + byte 3
          else ((byte 3 * 256 + byte 2) * 256 + byte 1) * 256 + byte 0)).toArray

/-- The bits of a word turned to the left. -/
def rotateLeft (x : UInt32) (n : UInt32) : UInt32 :=
  (x <<< n) ||| (x >>> (32 - n))

/-- A word in hexadecimal digits, the highest byte first or last. -/
def wordHex (bigEndian : Bool) (x : UInt32) : Chars :=
  let bytes := (List.range 4).map fun i => x.toNat / 256 ^ (if bigEndian then 3 - i else i) % 256
  bytes.flatMap fun b => Decimal.padLeft '0' 2 (Nat.toDigits 16 b)

/-- The constants of the sum of 128 bits. -/
def md5Constants : Array UInt32 :=
  #[0xd76aa478, 0xe8c7b756, 0x242070db, 0xc1bdceee, 0xf57c0faf, 0x4787c62a, 0xa8304613, 0xfd469501,
    0x698098d8, 0x8b44f7af, 0xffff5bb1, 0x895cd7be, 0x6b901122, 0xfd987193, 0xa679438e, 0x49b40821,
    0xf61e2562, 0xc040b340, 0x265e5a51, 0xe9b6c7aa, 0xd62f105d, 0x02441453, 0xd8a1e681, 0xe7d3fbc8,
    0x21e1cde6, 0xc33707d6, 0xf4d50d87, 0x455a14ed, 0xa9e3e905, 0xfcefa3f8, 0x676f02d9, 0x8d2a4c8a,
    0xfffa3942, 0x8771f681, 0x6d9d6122, 0xfde5380c, 0xa4beea44, 0x4bdecfa9, 0xf6bb4b60, 0xbebfbc70,
    0x289b7ec6, 0xeaa127fa, 0xd4ef3085, 0x04881d05, 0xd9d4d039, 0xe6db99e5, 0x1fa27cf8, 0xc4ac5665,
    0xf4292244, 0x432aff97, 0xab9423a7, 0xfc93a039, 0x655b59c3, 0x8f0ccc92, 0xffeff47d, 0x85845dd1,
    0x6fa87e4f, 0xfe2ce6e0, 0xa3014314, 0x4e0811a1, 0xf7537e82, 0xbd3af235, 0x2ad7d2bb, 0xeb86d391]

/-- The turns of the sum of 128 bits. -/
def md5Turns : Array UInt32 := #[7, 12, 17, 22, 5, 9, 14, 20, 4, 11, 16, 23, 6, 10, 15, 21]

/-- The sum of 128 bits of a text. -/
def md5 (text : Chars) : Chars :=
  let round (block : Array UInt32) (s : UInt32 × UInt32 × UInt32 × UInt32) (i : Nat) :
      UInt32 × UInt32 × UInt32 × UInt32 :=
    let (a, b, c, d) := s
    let (f, g) : UInt32 × Nat :=
      if i < 16 then ((b &&& c) ||| (~~~b &&& d), i)
      else if i < 32 then ((d &&& b) ||| (~~~d &&& c), (5 * i + 1) % 16)
      else if i < 48 then (b ^^^ c ^^^ d, (3 * i + 5) % 16)
      else (c ^^^ (b ||| ~~~d), 7 * i % 16)
    let sum := a + f + md5Constants.getD i 0 + block.getD g 0
    (d, b + rotateLeft sum (md5Turns.getD (i / 16 * 4 + i % 4) 0), b, c)
  let (a, b, c, d) := (hashBlocks false text).foldl
    (fun (s : UInt32 × UInt32 × UInt32 × UInt32) block =>
      let (a, b, c, d) := s
      let (a', b', c', d') := (List.range 64).foldl (round block) s
      (a + a', b + b', c + c', d + d'))
    (0x67452301, 0xefcdab89, 0x98badcfe, 0x10325476)
  [a, b, c, d].flatMap (wordHex false)

/-- The sum of 160 bits of a text. -/
def sha1 (text : Chars) : Chars :=
  let expand (block : Array UInt32) : Array UInt32 :=
    (List.range 64).foldl
      (fun (w : Array UInt32) i =>
        let at_ (k : Nat) : UInt32 := w.getD (i + 16 - k) 0
        w.push (rotateLeft (at_ 3 ^^^ at_ 8 ^^^ at_ 14 ^^^ at_ 16) 1)) block
  let round (w : Array UInt32) (s : List UInt32) (i : Nat) : List UInt32 :=
    match s with
    | [a, b, c, d, e] =>
      let (f, k) : UInt32 × UInt32 :=
        if i < 20 then ((b &&& c) ||| (~~~b &&& d), 0x5A827999)
        else if i < 40 then (b ^^^ c ^^^ d, 0x6ED9EBA1)
        else if i < 60 then ((b &&& c) ||| (b &&& d) ||| (c &&& d), 0x8F1BBCDC)
        else (b ^^^ c ^^^ d, 0xCA62C1D6)
      [rotateLeft a 5 + f + e + k + w.getD i 0, a, rotateLeft b 30, c, d]
    | s => s
  let result := (hashBlocks true text).foldl
    (fun (s : List UInt32) block =>
      List.zipWith (· + ·) s ((List.range 80).foldl (round (expand block)) s))
    [0x67452301, 0xEFCDAB89, 0x98BADCFE, 0x10325476, 0xC3D2E1F0]
  result.flatMap (wordHex true)

/-- The constants of the sum of 256 bits. -/
def sha256Constants : Array UInt32 :=
  #[0x428a2f98, 0x71374491, 0xb5c0fbcf, 0xe9b5dba5, 0x3956c25b, 0x59f111f1, 0x923f82a4, 0xab1c5ed5,
    0xd807aa98, 0x12835b01, 0x243185be, 0x550c7dc3, 0x72be5d74, 0x80deb1fe, 0x9bdc06a7, 0xc19bf174,
    0xe49b69c1, 0xefbe4786, 0x0fc19dc6, 0x240ca1cc, 0x2de92c6f, 0x4a7484aa, 0x5cb0a9dc, 0x76f988da,
    0x983e5152, 0xa831c66d, 0xb00327c8, 0xbf597fc7, 0xc6e00bf3, 0xd5a79147, 0x06ca6351, 0x14292967,
    0x27b70a85, 0x2e1b2138, 0x4d2c6dfc, 0x53380d13, 0x650a7354, 0x766a0abb, 0x81c2c92e, 0x92722c85,
    0xa2bfe8a1, 0xa81a664b, 0xc24b8b70, 0xc76c51a3, 0xd192e819, 0xd6990624, 0xf40e3585, 0x106aa070,
    0x19a4c116, 0x1e376c08, 0x2748774c, 0x34b0bcb5, 0x391c0cb3, 0x4ed8aa4a, 0x5b9cca4f, 0x682e6ff3,
    0x748f82ee, 0x78a5636f, 0x84c87814, 0x8cc70208, 0x90befffa, 0xa4506ceb, 0xbef9a3f7, 0xc67178f2]

/-- The sum of 256 bits of a text, from eight words at the start. -/
def sha256From (start : List UInt32) (text : Chars) : Chars :=
  let right (x n : UInt32) : UInt32 := rotateLeft x (32 - n)
  let expand (block : Array UInt32) : Array UInt32 :=
    (List.range 48).foldl
      (fun (w : Array UInt32) i =>
        let at_ (k : Nat) : UInt32 := w.getD (i + 16 - k) 0
        let s0 := right (at_ 15) 7 ^^^ right (at_ 15) 18 ^^^ (at_ 15 >>> 3)
        let s1 := right (at_ 2) 17 ^^^ right (at_ 2) 19 ^^^ (at_ 2 >>> 10)
        w.push (at_ 16 + s0 + at_ 7 + s1)) block
  let round (w : Array UInt32) (s : List UInt32) (i : Nat) : List UInt32 :=
    match s with
    | [a, b, c, d, e, f, g, h] =>
      let s1 := right e 6 ^^^ right e 11 ^^^ right e 25
      let choice := (e &&& f) ^^^ (~~~e &&& g)
      let t1 := h + s1 + choice + sha256Constants.getD i 0 + w.getD i 0
      let s0 := right a 2 ^^^ right a 13 ^^^ right a 22
      let majority := (a &&& b) ^^^ (a &&& c) ^^^ (b &&& c)
      [t1 + s0 + majority, a, b, c, d + t1, e, f, g]
    | s => s
  let result := (hashBlocks true text).foldl
    (fun (s : List UInt32) block =>
      List.zipWith (· + ·) s ((List.range 64).foldl (round (expand block)) s))
    start
  result.flatMap (wordHex true)

/-- The sum of 256 bits of a text. -/
def sha256 (text : Chars) : Chars :=
  sha256From [0x6a09e667, 0xbb67ae85, 0x3c6ef372, 0xa54ff53a, 0x510e527f, 0x9b05688c, 0x1f83d9ab,
    0x5be0cd19] text

/-- The sum of 224 bits of a text: other words at the start, and the last one
left out at the end. -/
def sha224 (text : Chars) : Chars :=
  (sha256From [0xc1059ed8, 0x367cd507, 0x3070dd17, 0xf70e5939, 0xffc00b31, 0x68581511, 0x64f98fa7,
    0xbefa4fa4] text).take 56

/-- The constants of the sum of 512 bits. -/
def sha512Constants : Array UInt64 :=
  #[0x428a2f98d728ae22, 0x7137449123ef65cd, 0xb5c0fbcfec4d3b2f, 0xe9b5dba58189dbbc,
    0x3956c25bf348b538, 0x59f111f1b605d019, 0x923f82a4af194f9b, 0xab1c5ed5da6d8118,
    0xd807aa98a3030242, 0x12835b0145706fbe, 0x243185be4ee4b28c, 0x550c7dc3d5ffb4e2,
    0x72be5d74f27b896f, 0x80deb1fe3b1696b1, 0x9bdc06a725c71235, 0xc19bf174cf692694,
    0xe49b69c19ef14ad2, 0xefbe4786384f25e3, 0x0fc19dc68b8cd5b5, 0x240ca1cc77ac9c65,
    0x2de92c6f592b0275, 0x4a7484aa6ea6e483, 0x5cb0a9dcbd41fbd4, 0x76f988da831153b5,
    0x983e5152ee66dfab, 0xa831c66d2db43210, 0xb00327c898fb213f, 0xbf597fc7beef0ee4,
    0xc6e00bf33da88fc2, 0xd5a79147930aa725, 0x06ca6351e003826f, 0x142929670a0e6e70,
    0x27b70a8546d22ffc, 0x2e1b21385c26c926, 0x4d2c6dfc5ac42aed, 0x53380d139d95b3df,
    0x650a73548baf63de, 0x766a0abb3c77b2a8, 0x81c2c92e47edaee6, 0x92722c851482353b,
    0xa2bfe8a14cf10364, 0xa81a664bbc423001, 0xc24b8b70d0f89791, 0xc76c51a30654be30,
    0xd192e819d6ef5218, 0xd69906245565a910, 0xf40e35855771202a, 0x106aa07032bbd1b8,
    0x19a4c116b8d2d0c8, 0x1e376c085141ab53, 0x2748774cdf8eeb99, 0x34b0bcb5e19b48a8,
    0x391c0cb3c5c95a63, 0x4ed8aa4ae3418acb, 0x5b9cca4f7763e373, 0x682e6ff3d6b2b8a3,
    0x748f82ee5defb2fc, 0x78a5636f43172f60, 0x84c87814a1f0ab72, 0x8cc702081a6439ec,
    0x90befffa23631e28, 0xa4506cebde82bde9, 0xbef9a3f7b2c67915, 0xc67178f2e372532b,
    0xca273eceea26619c, 0xd186b8c721c0c207, 0xeada7dd6cde0eb1e, 0xf57d4f7fee6ed178,
    0x06f067aa72176fba, 0x0a637dc5a2c898a6, 0x113f9804bef90dae, 0x1b710b35131c471b,
    0x28db77f523047d84, 0x32caab7b40c72493, 0x3c9ebe0a15c9bebc, 0x431d67c49c100d4c,
    0x4cc5d4becb3e42b6, 0x597f299cfc657e2a, 0x5fcb6fab3ad6faec, 0x6c44198c4a475817]

/-- A text in blocks of 128 bytes, with its length in bits at the end. -/
def wideBlocks (text : Chars) : List (Array UInt64) :=
  let padding := List.replicate ((239 - text.length % 128) % 128) (0 : Nat)
  let size := (List.range 16).map fun i => 8 * text.length / 256 ^ (15 - i) % 256
  let bytes := (text.map Char.toNat ++ 0x80 :: padding ++ size).toArray
  (List.range (bytes.size / 128)).map fun b =>
    ((List.range 16).map fun w =>
      UInt64.ofNat ((List.range 8).foldl
        (fun n i => 256 * n + bytes.getD (128 * b + 8 * w + i) 0) 0)).toArray

/-- The sum of 512 bits of a text, from eight words at the start. -/
def sha512From (start : List UInt64) (text : Chars) : Chars :=
  let right (x n : UInt64) : UInt64 := (x >>> n) ||| (x <<< (64 - n))
  let expand (block : Array UInt64) : Array UInt64 :=
    (List.range 64).foldl
      (fun (w : Array UInt64) i =>
        let at_ (k : Nat) : UInt64 := w.getD (i + 16 - k) 0
        let s0 := right (at_ 15) 1 ^^^ right (at_ 15) 8 ^^^ (at_ 15 >>> 7)
        let s1 := right (at_ 2) 19 ^^^ right (at_ 2) 61 ^^^ (at_ 2 >>> 6)
        w.push (at_ 16 + s0 + at_ 7 + s1)) block
  let round (w : Array UInt64) (s : List UInt64) (i : Nat) : List UInt64 :=
    match s with
    | [a, b, c, d, e, f, g, h] =>
      let s1 := right e 14 ^^^ right e 18 ^^^ right e 41
      let choice := (e &&& f) ^^^ (~~~e &&& g)
      let t1 := h + s1 + choice + sha512Constants.getD i 0 + w.getD i 0
      let s0 := right a 28 ^^^ right a 34 ^^^ right a 39
      let majority := (a &&& b) ^^^ (a &&& c) ^^^ (b &&& c)
      [t1 + s0 + majority, a, b, c, d + t1, e, f, g]
    | s => s
  let result := (wideBlocks text).foldl
    (fun (s : List UInt64) block =>
      List.zipWith (· + ·) s ((List.range 80).foldl (round (expand block)) s)) start
  result.flatMap fun x => Decimal.padLeft '0' 16 (Nat.toDigits 16 x.toNat)

/-- The sum of 512 bits of a text. -/
def sha512 (text : Chars) : Chars :=
  sha512From [0x6a09e667f3bcc908, 0xbb67ae8584caa73b, 0x3c6ef372fe94f82b, 0xa54ff53a5f1d36f1,
    0x510e527fade682d1, 0x9b05688c2b3e6c1f, 0x1f83d9abfb41bd6b, 0x5be0cd19137e2179] text

/-- The sum of 384 bits of a text: other words at the start, and the last two
left out at the end. -/
def sha384 (text : Chars) : Chars :=
  (sha512From [0xcbbb9d5dc1059ed8, 0x629a292a367cd507, 0x9159015a3070dd17, 0x152fecd8f70e5939,
    0x67332667ffc00b31, 0x8eb44a8768581511, 0xdb0c2e0d64f98fa7, 0x47b5481dbefa4fa4] text).take 96

/-- Show the sums of files. -/
def hashSum (name : String) (sum : Chars → Chars) : Program :=
  withOptions name 1 ⟨"bt", [("binary", 'b'), ("text", 't')], true⟩ fun g => do
    let (texts, failed) ← inputs name g.operands
    let status ← output name
      (ofLines (texts.map fun (file, text) =>
        sum text ++ ' ' :: (if g.has 'b' then '*' else ' ') :: file))
    return if failed then 1 else status

end Utility

end Shell

end TcpJournal
