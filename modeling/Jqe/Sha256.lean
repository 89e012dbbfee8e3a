import Mathlib.Algebra.Group.Nat.Defs
/-!
# Sha256 — the hash of a list of bytes, with words as numbers below 2^32
-/
namespace Sha256

def k : List ℕ := [
  0x428a2f98, 0x71374491, 0xb5c0fbcf, 0xe9b5dba5, 0x3956c25b, 0x59f111f1, 0x923f82a4, 0xab1c5ed5,
  0xd807aa98, 0x12835b01, 0x243185be, 0x550c7dc3, 0x72be5d74, 0x80deb1fe, 0x9bdc06a7, 0xc19bf174,
  0xe49b69c1, 0xefbe4786, 0x0fc19dc6, 0x240ca1cc, 0x2de92c6f, 0x4a7484aa, 0x5cb0a9dc, 0x76f988da,
  0x983e5152, 0xa831c66d, 0xb00327c8, 0xbf597fc7, 0xc6e00bf3, 0xd5a79147, 0x06ca6351, 0x14292967,
  0x27b70a85, 0x2e1b2138, 0x4d2c6dfc, 0x53380d13, 0x650a7354, 0x766a0abb, 0x81c2c92e, 0x92722c85,
  0xa2bfe8a1, 0xa81a664b, 0xc24b8b70, 0xc76c51a3, 0xd192e819, 0xd6990624, 0xf40e3585, 0x106aa070,
  0x19a4c116, 0x1e376c08, 0x2748774c, 0x34b0bcb5, 0x391c0cb3, 0x4ed8aa4a, 0x5b9cca4f, 0x682e6ff3,
  0x748f82ee, 0x78a5636f, 0x84c87814, 0x8cc70208, 0x90befffa, 0xa4506ceb, 0xbef9a3f7, 0xc67178f2]

def rotr (x n : ℕ) : ℕ := (x >>> n ||| x <<< (32 - n)) % 2 ^ 32

structure Working where
  a : ℕ
  b : ℕ
  c : ℕ
  d : ℕ
  e : ℕ
  f : ℕ
  g : ℕ
  h : ℕ

def initial : Working :=
  ⟨0x6a09e667, 0xbb67ae85, 0x3c6ef372, 0xa54ff53a, 0x510e527f, 0x9b05688c, 0x1f83d9ab, 0x5be0cd19⟩

def round (s : Working) (ki wi : ℕ) : Working :=
  let s1 := rotr s.e 6 ^^^ rotr s.e 11 ^^^ rotr s.e 25
  let ch := (s.e &&& s.f) ^^^ ((2 ^ 32 - 1 - s.e) &&& s.g)
  let t1 := s.h + s1 + ch + ki + wi
  let s0 := rotr s.a 2 ^^^ rotr s.a 13 ^^^ rotr s.a 22
  let maj := (s.a &&& s.b) ^^^ (s.a &&& s.c) ^^^ (s.b &&& s.c)
  ⟨(t1 + s0 + maj) % 2 ^ 32, s.a, s.b, s.c, (s.d + t1) % 2 ^ 32, s.e, s.f, s.g⟩

/-- `n` more words of the schedule, the last sixteen given newest first. -/
def extend : ℕ → List ℕ → List ℕ
  | 0, _ => []
  | n + 1, ws =>
    let w15 := ws.getD 14 0
    let w2 := ws.getD 1 0
    let s0 := rotr w15 7 ^^^ rotr w15 18 ^^^ w15 >>> 3
    let s1 := rotr w2 17 ^^^ rotr w2 19 ^^^ w2 >>> 10
    let w := (ws.getD 15 0 + s0 + ws.getD 6 0 + s1) % 2 ^ 32
    w :: extend n (w :: ws.take 15)

def compress (s : Working) (block : List ℕ) : Working :=
  let r := (k.zip (block ++ extend 48 block.reverse)).foldl (fun s (ki, wi) => round s ki wi) s
  ⟨(s.a + r.a) % 2 ^ 32, (s.b + r.b) % 2 ^ 32, (s.c + r.c) % 2 ^ 32, (s.d + r.d) % 2 ^ 32,
    (s.e + r.e) % 2 ^ 32, (s.f + r.f) % 2 ^ 32, (s.g + r.g) % 2 ^ 32, (s.h + r.h) % 2 ^ 32⟩

/-- The big-endian words of a list of bytes. -/
def words : List ℕ → List ℕ
  | a :: b :: c :: d :: bytes => (a <<< 24 + b <<< 16 + c <<< 8 + d) :: words bytes
  | _ => []

/-- The message with its delimiter, its zeros and its length in bits. -/
def pad (message : List ℕ) : List ℕ :=
  let bits := message.length * 8
  message ++ 0x80 :: List.replicate ((119 - message.length % 64) % 64) 0 ++
    (List.range 8).map fun i => (bits >>> (56 - 8 * i)) % 256

def blocks : ℕ → List ℕ → Working → Working
  | 0, _, s => s
  | n + 1, ws, s => blocks n (ws.drop 16) (compress s (ws.take 16))

def hash (message : List ℕ) : List ℕ :=
  let ws := words (pad message)
  let s := blocks (ws.length / 16) ws initial
  [s.a, s.b, s.c, s.d, s.e, s.f, s.g, s.h]

def hexDigit (n : ℕ) : Char := Char.ofNat (if n < 10 then 48 + n else 87 + n)

def hexdigest (message : List ℕ) : String :=
  String.ofList ((hash message).flatMap fun w => (List.range 8).map fun i => hexDigit ((w >>> (28 - 4 * i)) % 16))

theorem hexdigest_toList (message : List ℕ) : (hexdigest message).toList =
    (hash message).flatMap fun w => (List.range 8).map fun i => hexDigit ((w >>> (28 - 4 * i)) % 16) := by
  rw [hexdigest, String.toList_ofList]

theorem hexdigest_length (message : List ℕ) : (hexdigest message).toList.length = 64 := by
  simp [hexdigest_toList, hash]

theorem hexDigit_mem : ∀ n < 16, hexDigit n ∈ "0123456789abcdef".toList := by decide

theorem mem_hexdigest {message : List ℕ} {c : Char} (h : c ∈ (hexdigest message).toList) :
    c ∈ "0123456789abcdef".toList := by
  rw [hexdigest_toList, List.mem_flatMap] at h
  obtain ⟨w, -, h⟩ := h
  obtain ⟨i, -, rfl⟩ := List.mem_map.1 h
  exact hexDigit_mem _ (Nat.mod_lt _ (by decide))

/-! ### The digest by a window

The schedule with its last sixteen words as one pattern: a digest is evaluated without a walk along the window. -/

def nextWord (w15 w14 w6 w1 : ℕ) : ℕ :=
  (w15 + (rotr w14 7 ^^^ rotr w14 18 ^^^ w14 >>> 3) + w6 + (rotr w1 17 ^^^ rotr w1 19 ^^^ w1 >>> 10)) % 2 ^ 32

def extendWindow : ℕ → List ℕ → List ℕ
  | n + 1, [w0, w1, w2, w3, w4, w5, w6, w7, w8, w9, w10, w11, w12, w13, w14, w15] =>
    let w := nextWord w15 w14 w6 w1
    w :: extendWindow n [w, w0, w1, w2, w3, w4, w5, w6, w7, w8, w9, w10, w11, w12, w13, w14]
  | _, _ => []

theorem extend_eq_window : ∀ (n : ℕ) (ws : List ℕ), ws.length = 16 → extend n ws = extendWindow n ws
  | 0, _, _ => by rw [extend, extendWindow]; rintro _ _ _ _ _ _ _ _ _ _ _ _ _ _ _ _ _ h; cases h
  | n + 1, [w0, w1, w2, w3, w4, w5, w6, w7, w8, w9, w10, w11, w12, w13, w14, w15], _ =>
    congrArg (_ :: ·) (extend_eq_window n [_, w0, w1, w2, w3, w4, w5, w6, w7, w8, w9, w10, w11, w12, w13, w14] rfl)

def compressWindow (s : Working) (block : List ℕ) : Working :=
  let r := (k.zip (block ++ extendWindow 48 block.reverse)).foldl (fun s (ki, wi) => round s ki wi) s
  ⟨(s.a + r.a) % 2 ^ 32, (s.b + r.b) % 2 ^ 32, (s.c + r.c) % 2 ^ 32, (s.d + r.d) % 2 ^ 32,
    (s.e + r.e) % 2 ^ 32, (s.f + r.f) % 2 ^ 32, (s.g + r.g) % 2 ^ 32, (s.h + r.h) % 2 ^ 32⟩

def blocksWindow : ℕ → List ℕ → Working → Working
  | 0, _, s => s
  | n + 1, ws, s => blocksWindow n (ws.drop 16) (compressWindow s (ws.take 16))

theorem blocks_eq_window : ∀ (n : ℕ) (ws : List ℕ) (s : Working), 16 * n ≤ ws.length → blocks n ws s = blocksWindow n ws s
  | 0, _, _, _ => rfl
  | n + 1, ws, s, h => by
    have hblock : (ws.take 16).reverse.length = 16 := by rw [List.length_reverse, List.length_take]; omega
    have hrest : 16 * n ≤ (ws.drop 16).length := by rw [List.length_drop]; omega
    rw [blocks, blocksWindow, blocks_eq_window n _ _ hrest, compress, compressWindow, extend_eq_window _ _ hblock]

def hashWindow (message : List ℕ) : List ℕ :=
  let ws := words (pad message)
  let s := blocksWindow (ws.length / 16) ws initial
  [s.a, s.b, s.c, s.d, s.e, s.f, s.g, s.h]

def hexdigestWindow (message : List ℕ) : String :=
  String.ofList ((hashWindow message).flatMap fun w => (List.range 8).map fun i => hexDigit ((w >>> (28 - 4 * i)) % 16))

theorem hexdigest_eq_window (message : List ℕ) : hexdigest message = hexdigestWindow message := by
  rw [hexdigest, hexdigestWindow, hash, hashWindow, blocks_eq_window]
  exact Nat.mul_div_le _ _

example : hexdigest [97, 98, 99] = "ba7816bf8f01cfea414140de5dae2223b00361a396177a9cb410ff61f20015ad" := by decide +kernel

end Sha256
