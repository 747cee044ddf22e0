import CodingStandard.Path

namespace CodingStandard

/-!
# What names of files are read as

A system writes the names of files in units of its own, and a name need not stand for a text. The
characters of a path are such units. A name is read as a text with a replacement for whatever
stands for no character, so two names may be read alike, and a name that is written again after it
was read may be another one.
-/

/-- The units that a system writes names in. -/
structure NameCoding where
  units : Char → Text
  /-- The text that a name is read as. -/
  decode : Text → Text
  units_ascii : ∀ c : Char, c.toNat < 0x80 → units c = [c]
  decode_units : ∀ t : Text, decode (t.flatMap units) = t

namespace NameCoding

/-- A text as a name. -/
def encode (coding : NameCoding) (t : Text) : Text := t.flatMap coding.units

def read (coding : NameCoding) (name : Text) : String := String.ofList (coding.decode name)

def write (coding : NameCoding) (s : String) : Path := ⟨coding.encode s.toList⟩

/-- Whether a name stands for a text. -/
def IsText (coding : NameCoding) (name : Text) : Prop := ∃ t, coding.encode t = name

/-- Names that are texts. -/
def unicode : NameCoding where
  units c := [c]
  decode t := t
  units_ascii _ _ := rfl
  decode_units t := by simp

end NameCoding

/-! ## Names of bytes -/

namespace Utf8

/-- The bytes of a character. -/
def bytes (c : Char) : List Nat :=
  let v := c.toNat
  if v < 0x80 then [v]
  else if v < 0x800 then [0xC0 + v / 64, 0x80 + v % 64]
  else if v < 0x10000 then [0xE0 + v / 4096, 0x80 + v / 64 % 64, 0x80 + v % 64]
  else [0xF0 + v / 262144, 0x80 + v / 4096 % 64, 0x80 + v / 64 % 64, 0x80 + v % 64]

/-- A character some of whose bytes are still to come. -/
structure Pending where
  bits : Nat
  /-- How many bytes come after the next one. -/
  more : Nat
  low : Nat
  high : Nat

/-- Stands for the bytes of no character. -/
def replacement : Char := Char.ofNat 0xFFFD

/-- What comes of a byte that no character is waiting for. The second byte is bounded where a
shorter form, a surrogate or a number above the last character could follow. -/
def first (b : Nat) : Text × Option Pending :=
  if b < 0x80 then ([Char.ofNat b], none)
  else if 0xC2 ≤ b ∧ b < 0xE0 then ([], some ⟨b - 0xC0, 0, 0x80, 0xBF⟩)
  else if b = 0xE0 then ([], some ⟨0, 1, 0xA0, 0xBF⟩)
  else if b = 0xED then ([], some ⟨0xD, 1, 0x80, 0x9F⟩)
  else if 0xE1 ≤ b ∧ b < 0xF0 then ([], some ⟨b - 0xE0, 1, 0x80, 0xBF⟩)
  else if b = 0xF0 then ([], some ⟨0, 2, 0x90, 0xBF⟩)
  else if 0xF1 ≤ b ∧ b < 0xF4 then ([], some ⟨b - 0xF0, 2, 0x80, 0xBF⟩)
  else if b = 0xF4 then ([], some ⟨4, 2, 0x80, 0x8F⟩)
  else ([replacement], none)

def step : Option Pending → Nat → Text × Option Pending
  | none, b => first b
  | some p, b =>
    if p.low ≤ b ∧ b ≤ p.high then
      let bits := 64 * p.bits + (b - 0x80)
      match p.more with
      | 0 => ([Char.ofNat bits], none)
      | more + 1 => ([], some ⟨bits, more, 0x80, 0xBF⟩)
    else (replacement :: (first b).1, (first b).2)

/-- Reads bytes as a text, with a replacement for every longest run that starts a character and
does not complete it. -/
def decodeFrom : Option Pending → List Nat → Text
  | none, [] => []
  | some _, [] => [replacement]
  | state, b :: rest => (step state b).1 ++ decodeFrom (step state b).2 rest

theorem decodeFrom_cons (state : Option Pending) (b : Nat) (rest : List Nat) :
    decodeFrom state (b :: rest) = (step state b).1 ++ decodeFrom (step state b).2 rest := by
  cases state <;> rfl

theorem decodeFrom_last {bits low high b : Nat} (h : low ≤ b ∧ b ≤ high) (rest : List Nat) :
    decodeFrom (some ⟨bits, 0, low, high⟩) (b :: rest) =
      Char.ofNat (64 * bits + (b - 0x80)) :: decodeFrom none rest := by
  rw [decodeFrom_cons, step, if_pos h]
  rfl

theorem decodeFrom_more {bits more low high b : Nat} (h : low ≤ b ∧ b ≤ high) (rest : List Nat) :
    decodeFrom (some ⟨bits, more + 1, low, high⟩) (b :: rest) =
      decodeFrom (some ⟨64 * bits + (b - 0x80), more, 0x80, 0xBF⟩) rest := by
  rw [decodeFrom_cons, step, if_pos h]
  rfl

theorem decodeFrom_first {p : Pending} {b : Nat} (h : first b = ([], some p)) (rest : List Nat) :
    decodeFrom none (b :: rest) = decodeFrom (some p) rest := by
  rw [decodeFrom_cons, step, h]
  rfl

/-- The first byte of three leaves room for the second one. -/
theorem first_of_three {v : Nat} (hlow : 0x800 ≤ v) (hhigh : v < 0x10000)
    (hvalid : v < 0xD800 ∨ 0xDFFF < v) :
    ∃ low high, first (0xE0 + v / 4096) = ([], some ⟨v / 4096, 1, low, high⟩) ∧
      low ≤ 0x80 + v / 64 % 64 ∧ 0x80 + v / 64 % 64 ≤ high := by
  by_cases hzero : v / 4096 = 0
  · exact ⟨0xA0, 0xBF, by rw [hzero]; rfl, by omega⟩
  by_cases hsurrogate : v / 4096 = 0xD
  · exact ⟨0x80, 0x9F, by rw [hsurrogate]; rfl, by omega⟩
  refine ⟨0x80, 0xBF, ?_, by omega⟩
  rw [first, if_neg (by omega), if_neg (by omega), if_neg (by omega), if_neg (by omega),
    if_pos (by omega), Nat.add_sub_cancel_left]

/-- The first byte of four leaves room for the second one. -/
theorem first_of_four {v : Nat} (hlow : 0x10000 ≤ v) (hhigh : v < 0x110000) :
    ∃ low high, first (0xF0 + v / 262144) = ([], some ⟨v / 262144, 2, low, high⟩) ∧
      low ≤ 0x80 + v / 4096 % 64 ∧ 0x80 + v / 4096 % 64 ≤ high := by
  by_cases hzero : v / 262144 = 0
  · exact ⟨0x90, 0xBF, by rw [hzero]; rfl, by omega⟩
  by_cases hlast : v / 262144 = 4
  · exact ⟨0x80, 0x8F, by rw [hlast]; rfl, by omega⟩
  refine ⟨0x80, 0xBF, ?_, by omega⟩
  rw [first, if_neg (by omega), if_neg (by omega), if_neg (by omega), if_neg (by omega),
    if_neg (by omega), if_neg (by omega), if_pos (by omega), Nat.add_sub_cancel_left]

theorem toNat_bounds (c : Char) : (c.toNat < 0xD800 ∨ 0xDFFF < c.toNat) ∧ c.toNat < 0x110000 := by
  have := c.valid
  simp only [UInt32.isValidChar, Nat.isValidChar] at this
  change (c.val.toNat < 0xD800 ∨ 0xDFFF < c.val.toNat) ∧ c.val.toNat < 0x110000
  omega

theorem decodeFrom_bytes (c : Char) (rest : List Nat) :
    decodeFrom none (bytes c ++ rest) = c :: decodeFrom none rest := by
  obtain ⟨hvalid, hbound⟩ := toNat_bounds c
  have hchar : ∀ v, v = c.toNat → Char.ofNat v = c := fun v hv => by rw [hv, Char.ofNat_toNat]
  rw [bytes]
  split
  next hone =>
    rw [List.singleton_append, decodeFrom_cons, step, first, if_pos hone, hchar _ rfl]
    rfl
  split
  next htwo =>
    have hfirst : first (0xC0 + c.toNat / 64) = ([], some ⟨c.toNat / 64, 0, 0x80, 0xBF⟩) := by
      rw [first, if_neg (by omega), if_pos (by omega), Nat.add_sub_cancel_left]
    rw [List.cons_append, List.singleton_append, decodeFrom_first hfirst,
      decodeFrom_last (by omega), hchar _ (by omega)]
  split
  next hthree =>
    obtain ⟨low, high, hfirst, hsecond⟩ := first_of_three (by omega) hthree hvalid
    rw [List.cons_append, List.cons_append, List.singleton_append, decodeFrom_first hfirst,
      decodeFrom_more hsecond, decodeFrom_last (by omega), hchar _ (by omega)]
  next hfour =>
    obtain ⟨low, high, hfirst, hsecond⟩ := first_of_four (by omega) hbound
    rw [List.cons_append, List.cons_append, List.cons_append, List.singleton_append,
      decodeFrom_first hfirst, decodeFrom_more hsecond, decodeFrom_more (by omega),
      decodeFrom_last (by omega), hchar _ (by omega)]

theorem bytes_lt {c : Char} {b : Nat} (h : b ∈ bytes c) : b < 0x100 := by
  have hbound := (toNat_bounds c).2
  rw [bytes] at h
  split at h
  next => simp only [List.mem_singleton] at h; omega
  split at h
  next => simp only [List.mem_cons, List.not_mem_nil, or_false] at h; omega
  split at h <;> simp only [List.mem_cons, List.not_mem_nil, or_false] at h <;> omega

theorem toNat_ofNat {b : Nat} (h : b < 0x100) : (Char.ofNat b).toNat = b := by
  have hvalid : b.isValidChar := .inl (by omega)
  rw [Char.ofNat, dif_pos hvalid]
  rfl

end Utf8

namespace NameCoding

/-- Names that are bytes, read as UTF-8. A byte is the character with its number. -/
def bytes : NameCoding where
  units c := (Utf8.bytes c).map Char.ofNat
  decode t := Utf8.decodeFrom none (t.map Char.toNat)
  units_ascii c hc := by
    rw [Utf8.bytes]
    simp [hc, Char.ofNat_toNat]
  decode_units t := by
    have hbytes : ∀ c, ((Utf8.bytes c).map Char.ofNat).map Char.toNat = Utf8.bytes c := by
      intro c
      rw [List.map_map]
      exact (List.map_congr_left fun b hb => Utf8.toNat_ofNat (Utf8.bytes_lt hb)).trans
        (List.map_id _)
    induction t with
    | nil => rfl
    | cons c t ih =>
        rw [List.flatMap_cons, List.map_append, hbytes, Utf8.decodeFrom_bytes, ih]

end NameCoding

end CodingStandard
