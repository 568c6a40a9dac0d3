import Mathlib.Tactic.Common
import CommunityServers.Foundation.Bytes

/-!
Contract: the compression algorithms of payloads.

Owns:
- the ratio byte that the zlib and the LZO algorithm put in front of what their
  library gives, and its check;
- exactly which payloads come back.

A result `none` is a panic: an index or a division that is not defined.

Does not own: the compression libraries themselves.
-/

set_option autoImplicit false

namespace CommunityServers.Nex

open CommunityServers.Foundation

/-- A compression library. -/
structure CompressionLibrary where
  compress : Bytes → Bytes
  decompress : Bytes → Except String Bytes

def compressWithRatio (library : CompressionLibrary) (payload : Bytes) : Option Bytes :=
  let compressed := library.compress payload
  if compressed.length = 0 then none
  else some (UInt8.ofNat (payload.length / compressed.length + 1) :: compressed)

def badRatio (expected actual : Nat) : String :=
  "Failed to decompress payload. Got bad ratio. Expected " ++ toString expected ++ ", got " ++
    toString actual

def decompressWithRatio (library : CompressionLibrary) : Bytes → Option (Except String Bytes)
  | [] => none
  | compressionRatio :: compressed =>
      if compressionRatio = 0 then some (.ok compressed)
      else
        match library.decompress compressed with
        | .error reason => some (.error reason)
        | .ok decompressed =>
            if compressed.length = 0 then none
            else
              let ratioCheck := decompressed.length / compressed.length + 1
              if ratioCheck ≠ compressionRatio.toNat then
                some (.error (badRatio compressionRatio.toNat ratioCheck))
              else some (.ok decompressed)

inductive CompressionAlgorithm where
  | dummy
  | zlib (library : CompressionLibrary)
  | lzo (library : CompressionLibrary)

namespace CompressionAlgorithm

def compress (payload : Bytes) : CompressionAlgorithm → Option Bytes
  | dummy => some payload
  | zlib library => compressWithRatio library payload
  | lzo library => compressWithRatio library payload

def decompress (payload : Bytes) : CompressionAlgorithm → Option (Except String Bytes)
  | dummy => some (.ok payload)
  | zlib library => decompressWithRatio library payload
  | lzo library => decompressWithRatio library payload

def copy : CompressionAlgorithm → CompressionAlgorithm := id

end CompressionAlgorithm

/-! ### The ratio byte -/

section Ratio

variable {library : CompressionLibrary} {payload : Bytes}

/-- The library restores a payload and never gives an empty result for it. -/
structure CompressionLibrary.Restores (library : CompressionLibrary) (payload : Bytes) : Prop where
  nonempty : (library.compress payload).length ≠ 0
  restored : library.decompress (library.compress payload) = .ok payload

theorem decompressWithRatio_of_ratio_lt (restores : library.Restores payload)
    (small : payload.length / (library.compress payload).length < 255) :
    (compressWithRatio library payload).bind (decompressWithRatio library) =
      some (.ok payload) := by
  have ratio : (UInt8.ofNat (payload.length / (library.compress payload).length + 1)).toNat =
      payload.length / (library.compress payload).length + 1 :=
    UInt8.toNat_ofNat_of_lt' (by show _ < 256; omega)
  have nonzero : UInt8.ofNat (payload.length / (library.compress payload).length + 1) ≠ 0 := by
    intro zero
    rw [zero] at ratio
    exact absurd ratio (by simp)
  rw [compressWithRatio, if_neg restores.nonempty, Option.bind_some, decompressWithRatio,
    if_neg nonzero, restores.restored]
  simp only [if_neg restores.nonempty, ratio, ne_eq, not_true_eq_false, if_false]

/-- A ratio that needs more than the byte is refused, or read as the mark of a
payload that was not compressed. -/
theorem decompressWithRatio_of_le_ratio (restores : library.Restores payload)
    (large : 255 ≤ payload.length / (library.compress payload).length) :
    (compressWithRatio library payload).bind (decompressWithRatio library) ≠
      some (.ok payload) := by
  have byte := (UInt8.ofNat (payload.length / (library.compress payload).length + 1)).toNat_lt
  rw [compressWithRatio, if_neg restores.nonempty, Option.bind_some, decompressWithRatio]
  split
  next =>
    intro same
    have unchanged : library.compress payload = payload := Except.ok.inj (Option.some.inj same)
    have self : payload.length / payload.length = 1 :=
      Nat.div_self (Nat.pos_of_ne_zero (unchanged ▸ restores.nonempty))
    rw [unchanged, self] at large
    omega
  next =>
    rw [restores.restored]
    have mismatch : payload.length / (library.compress payload).length + 1 ≠
        (UInt8.ofNat (payload.length / (library.compress payload).length + 1)).toNat := by
      omega
    simp only [if_neg restores.nonempty, if_pos mismatch]
    simp

end Ratio

/-- **Ratio byte.** What the zlib and the LZO algorithm compress comes back
exactly when the payload is less than 255 times as long as its compressed form. -/
theorem CompressionAlgorithm.decompress_compress {library : CompressionLibrary} {payload : Bytes}
    (restores : library.Restores payload) {algorithm : CompressionAlgorithm}
    (member : algorithm ∈ [zlib library, lzo library]) :
    (algorithm.compress payload).bind (fun compressed => algorithm.decompress compressed) =
        some (.ok payload) ↔
      payload.length / (library.compress payload).length < 255 := by
  have ratio : (compressWithRatio library payload).bind (decompressWithRatio library) =
      some (.ok payload) ↔ payload.length / (library.compress payload).length < 255 := by
    constructor
    · intro same
      by_contra large
      exact decompressWithRatio_of_le_ratio restores (Nat.le_of_not_lt large) same
    · exact decompressWithRatio_of_ratio_lt restores
  rcases List.mem_pair.mp member with rfl | rfl
  · exact ratio
  · exact ratio

/-- A library known by its answers: payloads and what they are compressed to. -/
def tabulated (table : List (Bytes × Bytes)) : CompressionLibrary where
  compress payload := (table.lookup payload).getD []
  decompress data :=
    match table.find? (fun entry => entry.2 == data) with
    | some entry => .ok entry.1
    | none => .error "zlib: invalid header"

/-- What zlib makes of three bytes: one block with fixed codes, the empty block
that closing the writer adds, and the checksum. -/
def zlibOfThree : CompressionLibrary :=
  tabulated
    [([1, 2, 3],
      [0x78, 0x9C, 0x62, 0x64, 0x62, 0x06, 0x04, 0, 0, 0xFF, 0xFF, 0, 0x0D, 0, 0x07])]

theorem CompressionAlgorithm.decompress_compress_three :
    ((zlib zlibOfThree).compress [1, 2, 3]).bind
        (fun compressed => (zlib zlibOfThree).decompress compressed) = some (.ok [1, 2, 3]) :=
  (CompressionAlgorithm.decompress_compress
    (⟨by decide, by rfl⟩ : zlibOfThree.Restores [1, 2, 3]) List.mem_cons_self).mpr (by decide)

end CommunityServers.Nex
