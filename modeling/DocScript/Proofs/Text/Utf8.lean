import DocScript.Text.Utf8
import Mathlib.Tactic.SplitIfs

/-! # UTF-8 is read back

The bytes of a character are the one head of a byte list that is read as it, so the bytes of a text
are decoded to the text.
-/

namespace DocScript.Text.Utf8

variable {rest : List UInt8}

theorem toNat_ofNat {n : Nat} (h : n < 256) : (UInt8.ofNat n).toNat = n :=
  UInt8.toNat_ofNat_of_lt' h

theorem isContinuation_ofNat (n : Nat) : isContinuation (UInt8.ofNat (n % 64 + 128)) = true := by
  have hn : n % 64 + 128 < 256 := by omega
  rw [isContinuation, toNat_ofNat hn, Bool.and_eq_true, decide_eq_true_iff, decide_eq_true_iff]
  omega

theorem shiftIn_ofNat (bits n : Nat) :
    shiftIn bits (UInt8.ofNat (n % 64 + 128)) = bits * 64 + n % 64 := by
  have hn : n % 64 + 128 < 256 := by omega
  unfold shiftIn
  simp only [toNat_ofNat hn]
  omega

theorem secondInBounds_of_toNat {lead second : UInt8}
    (h0 : lead.toNat = 0xE0 → 0xA0 ≤ second.toNat) (hd : lead.toNat = 0xED → second.toNat < 0xA0)
    (hf : lead.toNat = 0xF0 → 0x90 ≤ second.toNat) (h4 : lead.toNat = 0xF4 → second.toNat < 0x90) :
    secondInBounds lead second = true := by
  unfold secondInBounds
  split_ifs with he0 hed hf0 hf4
  · exact decide_eq_true (h0 (congrArg UInt8.toNat he0))
  · exact decide_eq_true (hd (congrArg UInt8.toNat hed))
  · exact decide_eq_true (hf (congrArg UInt8.toNat hf0))
  · exact decide_eq_true (h4 (congrArg UInt8.toNat hf4))
  · rfl

theorem continuation_cons (bits seen missing n : Nat) (rest : List UInt8) :
    continuation bits seen (missing + 1) (UInt8.ofNat (n % 64 + 128) :: rest) =
      continuation (bits * 64 + n % 64) (seen + 1) missing rest := by
  rw [continuation, if_pos (isContinuation_ofNat n), shiftIn_ofNat]

/-- The second byte of a long character, if it is in the bounds that its lead sets. -/
theorem long_cons {lead bits missing n : Nat} (hl : lead < 256)
    (h0 : lead = 0xE0 → 0x20 ≤ n % 64) (hd : lead = 0xED → n % 64 < 0x20)
    (hf : lead = 0xF0 → 0x10 ≤ n % 64) (h4 : lead = 0xF4 → n % 64 < 0x10) :
    long (UInt8.ofNat lead) bits missing (UInt8.ofNat (n % 64 + 128) :: rest) =
      continuation (bits * 64 + n % 64) 2 missing rest := by
  have hn : n % 64 + 128 < 256 := by omega
  have hs : secondInBounds (UInt8.ofNat lead) (UInt8.ofNat (n % 64 + 128)) = true := by
    apply secondInBounds_of_toNat <;> rw [toNat_ofNat hl, toNat_ofNat hn] <;> omega
  rw [long, isContinuation_ofNat, hs, shiftIn_ofNat]
  rfl

/-- The bytes of a character are read as it, whatever follows them. -/
theorem decodeFrom_char (c : Char) (rest : List UInt8) :
    decodeFrom 0 (String.utf8EncodeChar c ++ rest) = c :: decodeFrom 0 rest := by
  have hc : Char.ofNat c.val.toNat = c := Char.ofNat_toNat c
  have hv : c.val.toNat < 0xD800 ∨ 0xDFFF < c.val.toNat ∧ c.val.toNat < 0x110000 := c.valid
  unfold String.utf8EncodeChar
  generalize c.val.toNat = v at hc hv
  dsimp only
  -- one case for each number of bytes
  split_ifs with h1 h2 h3
  · have hl : v < 256 := by omega
    have hh : head (UInt8.ofNat v) rest = .char c 1 := by
      rw [head, toNat_ofNat hl, if_pos (by omega), hc]
    simp only [List.cons_append, List.nil_append, decodeFrom, hh]
  · have hl : v / 64 % 32 + 192 < 256 := by omega
    have hh : head (UInt8.ofNat (v / 64 % 32 + 192)) (UInt8.ofNat (v % 64 + 128) :: rest) =
        .char c 2 := by
      simp only [head, toNat_ofNat hl]
      rw [if_neg (by omega), if_neg (by omega), if_pos (by omega),
        long_cons hl (by omega) (by omega) (by omega) (by omega), continuation]
      rw [show (v / 64 % 32 + 192 - 192) * 64 + v % 64 = v by omega, hc]
    simp only [List.cons_append, List.nil_append, decodeFrom, hh]
  · have hl : v / 4096 % 16 + 224 < 256 := by omega
    have hh : head (UInt8.ofNat (v / 4096 % 16 + 224))
        (UInt8.ofNat (v / 64 % 64 + 128) :: UInt8.ofNat (v % 64 + 128) :: rest) = .char c 3 := by
      simp only [head, toNat_ofNat hl]
      rw [if_neg (by omega), if_neg (by omega), if_neg (by omega), if_pos (by omega),
        long_cons hl (by omega) (by omega) (by omega) (by omega), continuation_cons, continuation]
      rw [show ((v / 4096 % 16 + 224 - 224) * 64 + v / 64 % 64) * 64 + v % 64 = v by omega, hc]
    simp only [List.cons_append, List.nil_append, decodeFrom, hh]
  · have hl : v / 262144 % 8 + 240 < 256 := by omega
    have hh : head (UInt8.ofNat (v / 262144 % 8 + 240)) (UInt8.ofNat (v / 4096 % 64 + 128) ::
        UInt8.ofNat (v / 64 % 64 + 128) :: UInt8.ofNat (v % 64 + 128) :: rest) = .char c 4 := by
      simp only [head, toNat_ofNat hl]
      rw [if_neg (by omega), if_neg (by omega), if_neg (by omega), if_neg (by omega),
        if_pos (by omega), long_cons hl (by omega) (by omega) (by omega) (by omega),
        continuation_cons, continuation_cons, continuation]
      rw [show (((v / 262144 % 8 + 240 - 240) * 64 + v / 4096 % 64) * 64 + v / 64 % 64) * 64 +
        v % 64 = v by omega, hc]
    simp only [List.cons_append, List.nil_append, decodeFrom, hh]

/-- Decoding the bytes of a text gives the text. -/
theorem decodeReplacing_utf8 (text : List Char) :
    decodeReplacing (text.flatMap String.utf8EncodeChar) = text := by
  rw [decodeReplacing]
  induction text with
  | nil => rfl
  | cons c rest ih => rw [List.flatMap_cons, decodeFrom_char, ih]

/-- An ASCII character is its own byte. -/
theorem decodeFrom_ascii {text : List Char} (h : ∀ c ∈ text, c.toNat < 0x80) :
    decodeFrom 0 (text.map Char.toUInt8 ++ rest) = text ++ decodeFrom 0 rest := by
  induction text with
  | nil => rfl
  | cons c others ih =>
    have hc : String.utf8EncodeChar c = [c.toUInt8] := by
      have hl : c.val.toNat ≤ 0x7f := Nat.le_of_lt_succ (h c List.mem_cons_self)
      rw [String.utf8EncodeChar, if_pos hl]
      rfl
    have hd := decodeFrom_char c (others.map Char.toUInt8 ++ rest)
    rw [hc, ih fun other ho => h other (List.mem_cons_of_mem c ho)] at hd
    exact hd

/-- No more characters are read than there are bytes. -/
theorem length_decodeFrom_le (skip : Nat) (bytes : List UInt8) :
    (decodeFrom skip bytes).length ≤ bytes.length := by
  fun_induction decodeFrom skip bytes with
  | case1 => exact Nat.le_refl _
  | case2 skip b rest ih => exact Nat.le_succ_of_le ih
  | case3 lead rest c length _ ih => exact Nat.succ_le_succ ih
  | case4 lead rest defect length _ ih => exact Nat.succ_le_succ ih

end DocScript.Text.Utf8
