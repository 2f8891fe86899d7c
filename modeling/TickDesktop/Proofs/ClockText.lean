import TickDesktop.Proofs.ColorSpelling
import TickDesktop.Window.ClockFace

/-!
# The text of a clock

A clock shows a time in three fields of two digits, with colons between them. Hours stay below a
hundred, minutes and seconds below sixty. So the fields tell a time up to a multiple of a hundred
hours, and each time below that is read from one text alone. The text is put together from bytes,
worked out in numbers of 64 bits. No sum on the way is too large for a byte, and the bytes are a
text in UTF-8, so painting from them always shows the time.
-/
namespace TickDesktop

namespace ClockFace

/-- What the three fields of a clock show. -/
@[ext] structure Fields where
  hours : Fin 100
  minutes : Fin 60
  seconds : Fin 60
  deriving DecidableEq

namespace Fields

/-- The time in seconds. -/
def total (f : Fields) : Nat := 3600 * f.hours + 60 * f.minutes + f.seconds

/-- The time as a text. -/
def text (f : Fields) : List Char :=
  twoDigits f.hours ++ ':' :: twoDigits f.minutes ++ ':' :: twoDigits f.seconds

/-- The number below a limit that two digits denote. -/
def number? (limit : Nat) (tens ones : Char) : Option (Fin limit) :=
  (Text.natural? 10 [tens, ones]).bind fun n => if h : n < limit then some ⟨n, h⟩ else none

/-- The fields of a text. Anything but three of them with colons between is refused. -/
def ofText? : List Char → Option Fields
  | [h, h', ':', m, m', ':', s, s'] => do
    return ⟨← number? 100 h h', ← number? 60 m m', ← number? 60 s s'⟩
  | _ => none

/-- The fields in which a clock shows a time in seconds. -/
def ofSeconds (n : Nat) : Fields where
  hours := ⟨n / 3600 % 100, by omega⟩
  minutes := ⟨n % 3600 / 60, by omega⟩
  seconds := ⟨n % 60, by omega⟩

end Fields

/-- The byte of a digit: its value, cut to a byte, on top of the byte of zero. It fails if the sum
is too large for a byte. -/
def digitByte? (v : UInt64) : Option UInt8 :=
  if 0x30 + v.toUInt8.toNat ≤ 0xFF then some (0x30 + v.toUInt8) else none

/-- The bytes of a time in seconds, in numbers of 64 bits. -/
def timeBytes? (seconds : UInt64) : Option (Vector UInt8 8) := do
  let hours := seconds / 3600 % 100
  let minutes := seconds % 3600 / 60
  let rest := seconds % 60
  return #v[← digitByte? (hours / 10), ← digitByte? (hours % 10), 0x3A,
    ← digitByte? (minutes / 10), ← digitByte? (minutes % 10), 0x3A,
    ← digitByte? (rest / 10), ← digitByte? (rest % 10)]

/-- The text that bytes are in UTF-8, if they are one. -/
def decode? (bytes : Vector UInt8 8) : Option String := String.fromUTF8? ⟨bytes.toArray⟩

/-- The shadow, the box and its border, over a background. -/
def backdrop (outline : Outline) (c : ClockFace) (background : Color) (s : Surface) : Surface :=
  let width := s.width - shadowOffset
  let height := s.height - shadowOffset
  (((s.fill 0).fillRect shadowOffset shadowOffset width height shadow).fillRect
    0 0 width height background.toPixel).putAll (outline width height c.border)

/-- Painting with the time taken from its bytes, which is left out if they are no text. It fails if
there are no bytes. -/
def render? (outline : Outline) (c : ClockFace) (p : Pane) : Option Pane := do
  let bytes ← timeBytes? (.ofNat c.elapsed)
  return p.paint fun surface =>
    let box := c.backdrop outline p.background surface
    match decode? bytes with
    | some text => box.drawText Font.ascii textX textY text.toList c.foreground.toPixel
    | none => box

/-! ## Two digits -/

variable {a b : Char} {n v : Nat}

/-- The digits of the decimal radix have no case. -/
theorem digitValue?_ten_eq_some_iff :
    Text.digitValue? 10 a = some v ↔ v < 10 ∧ a = Text.digit v := by
  have hcase : ∀ v < 10, (Text.digit v).toUpper = Text.digit v := by decide
  rw [Text.digitValue?_eq_some_iff (by omega), Text.IsDigit]
  refine and_congr_right fun hv => ?_
  rw [hcase v hv, or_self]

/-- Two characters denote a number just if they are its two digits. -/
theorem natural?_two_eq_some_iff :
    Text.natural? 10 [a, b] = some n ↔ n < 100 ∧ [a, b] = twoDigits n := by
  have hread : Text.natural? 10 [a, b] = (Text.digitValue? 10 a).bind fun tens =>
      (Text.digitValue? 10 b).map (tens * 10 + ·) := by
    rw [← Text.natural?_singleton 10 a]
    exact Text.natural?_concat (List.cons_ne_nil a []) 10 b
  rw [hread, Option.bind_eq_some_iff, twoDigits, List.cons_eq_cons, List.cons_eq_cons]
  constructor
  · rintro ⟨tens, hten, h⟩
    obtain ⟨ones, hone, rfl⟩ := Option.map_eq_some_iff.1 h
    obtain ⟨htens, rfl⟩ := digitValue?_ten_eq_some_iff.1 hten
    obtain ⟨hones, rfl⟩ := digitValue?_ten_eq_some_iff.1 hone
    have hdiv : (tens * 10 + ones) / 10 = tens := by omega
    have hmod : (tens * 10 + ones) % 10 = ones := by omega
    rw [hdiv, hmod]
    exact ⟨by omega, rfl, rfl, rfl⟩
  · rintro ⟨hn, rfl, rfl, -⟩
    refine ⟨n / 10, digitValue?_ten_eq_some_iff.2 ⟨by omega, rfl⟩,
      Option.map_eq_some_iff.2 ⟨n % 10, digitValue?_ten_eq_some_iff.2 ⟨by omega, rfl⟩, ?_⟩⟩
    exact Nat.div_add_mod' n 10

namespace Fields

variable {f f' : Fields} {s : List Char}

theorem number?_eq_some_iff {limit : Nat} (hlimit : limit ≤ 100) {k : Fin limit} :
    number? limit a b = some k ↔ [a, b] = twoDigits k := by
  simp only [number?, Option.bind_eq_some_iff, natural?_two_eq_some_iff]
  constructor
  · rintro ⟨n, ⟨-, htext⟩, h⟩
    obtain ⟨hn, h⟩ := Option.dite_none_right_eq_some.1 h
    obtain rfl := Option.some.inj h
    exact htext
  · intro htext
    exact ⟨k, ⟨Nat.lt_of_lt_of_le k.isLt hlimit, htext⟩, dif_pos k.isLt⟩

/-! ## Fields and text -/

/-- Fields are read from the text that shows them, and from no other. -/
theorem ofText?_eq_some_iff : ofText? s = some f ↔ s = f.text := by
  constructor
  · intro h
    unfold ofText? at h
    split at h
    · simp only [Option.bind_eq_bind, Option.bind_eq_some_iff, Option.pure_def,
        Option.some_inj] at h
      obtain ⟨hours, hhours, minutes, hminutes, seconds, hseconds, rfl⟩ := h
      rw [number?_eq_some_iff (by omega)] at hhours hminutes hseconds
      rw [text, ← hhours, ← hminutes, ← hseconds]
      rfl
    · cases h
  · rintro rfl
    have hread {limit : Nat} (hlimit : limit ≤ 100) (k : Fin limit) :
        number? limit (Text.digit (k / 10)) (Text.digit (k % 10)) = some k :=
      (number?_eq_some_iff hlimit).2 rfl
    -- the text has colons in the two places, so what is left to read are its three fields
    change (do return Fields.mk (← number? 100 _ _) (← number? 60 _ _) (← number? 60 _ _)) = _
    rw [hread (by omega), hread (by omega), hread (by omega)]
    rfl

theorem text_injective (h : f.text = f'.text) : f = f' :=
  Option.some.inj ((ofText?_eq_some_iff.2 rfl).symm.trans (ofText?_eq_some_iff.2 h))

/-! ## Fields and seconds -/

/-- The fields tell a time up to a multiple of a hundred hours. -/
theorem total_ofSeconds (n : Nat) : (ofSeconds n).total = n % 360000 := by
  simp only [total, ofSeconds]
  omega

/-- Every time below a hundred hours is told by fields of its own. -/
theorem ofSeconds_total (f : Fields) : ofSeconds f.total = f := by
  have hm := f.minutes.isLt
  have hs := f.seconds.isLt
  ext <;> simp only [total, ofSeconds] <;> omega

theorem ofSeconds_eq_iff {m : Nat} : ofSeconds m = ofSeconds n ↔ m % 360000 = n % 360000 := by
  rw [← total_ofSeconds, ← total_ofSeconds]
  refine ⟨congrArg total, fun h => ?_⟩
  rw [← ofSeconds_total (ofSeconds m), h, ofSeconds_total]

end Fields

theorem timeText_eq (n : Nat) : timeText n = (Fields.ofSeconds n).text := rfl

/-- Two times have one text just if they agree up to a multiple of a hundred hours. -/
theorem timeText_eq_iff {m : Nat} : timeText m = timeText n ↔ m % 360000 = n % 360000 := by
  rw [timeText_eq, timeText_eq, ← Fields.ofSeconds_eq_iff]
  exact ⟨Fields.text_injective, congrArg Fields.text⟩

/-! ## Bytes -/

/-- The value of a digit is far below one that would make the sum too large. -/
theorem digitByte?_eq {v : UInt64} (hv : v.toNat < 10) :
    digitByte? v = some (Text.digit v.toNat).toUInt8 := by
  have hsum : ∀ k < 10, 0x30 + UInt8.ofNat k = (Text.digit k).toUInt8 := by decide
  have hcut : v.toUInt8 = UInt8.ofNat v.toNat := by
    rw [← UInt8.toNat_inj, UInt64.toNat_toUInt8]
    rfl
  have hlow : v.toUInt8.toNat ≤ v.toNat := by
    rw [UInt64.toNat_toUInt8]
    exact Nat.mod_le _ _
  rw [digitByte?, if_pos (by omega), hcut, hsum v.toNat hv]

/-- The bytes of the two digits of a number. -/
theorem digitBytes?_eq {v : UInt64} {k : Nat} (hv : v.toNat = k) (hk : k < 100) :
    digitByte? (v / 10) = some (Text.digit (k / 10)).toUInt8 ∧
      digitByte? (v % 10) = some (Text.digit (k % 10)).toUInt8 := by
  have hten : (v / 10).toNat = k / 10 := by
    rw [UInt64.toNat_div, hv]
    rfl
  have hone : (v % 10).toNat = k % 10 := by
    rw [UInt64.toNat_mod, hv]
    rfl
  rw [← hten, ← hone]
  exact ⟨digitByte?_eq (by omega), digitByte?_eq (by omega)⟩

/-- The bytes of a time can be put together, and are the codes of its text. -/
theorem exists_timeBytes (n : UInt64) : ∃ bytes, timeBytes? n = some bytes ∧
    bytes.toList = (timeText n.toNat).map Char.toUInt8 := by
  have hhours : (n / 3600 % 100).toNat = n.toNat / 3600 % 100 := by
    rw [UInt64.toNat_mod, UInt64.toNat_div]
    rfl
  have hminutes : (n % 3600 / 60).toNat = n.toNat % 3600 / 60 := by
    rw [UInt64.toNat_div, UInt64.toNat_mod]
    rfl
  have hseconds : (n % 60).toNat = n.toNat % 60 := UInt64.toNat_mod ..
  obtain ⟨hh, hh'⟩ := digitBytes?_eq hhours (by omega)
  obtain ⟨hm, hm'⟩ := digitBytes?_eq hminutes (by omega)
  obtain ⟨hs, hs'⟩ := digitBytes?_eq hseconds (by omega)
  simp only [timeBytes?, hh, hh', hm, hm', hs, hs', Option.bind_eq_bind, Option.bind_some]
  exact ⟨_, rfl, rfl⟩

theorem isAscii_timeText (n : Nat) : Text.isAscii (timeText n) = true := by
  have hdigit : ∀ v < 10, (Text.digit v).toNat < 0x80 := by decide
  have htwo (k : Nat) (hk : k < 100) : ∀ c ∈ twoDigits k, c.toNat < 0x80 := by
    simp only [twoDigits, List.forall_mem_cons, List.not_mem_nil, false_implies, implies_true,
      and_true]
    exact ⟨hdigit _ (by omega), hdigit _ (by omega)⟩
  have hcolon : ':'.toNat < 0x80 := by decide
  simp only [Text.isAscii, List.all_eq_true, decide_eq_true_eq, timeText, List.forall_mem_append,
    List.forall_mem_cons]
  exact ⟨⟨htwo _ (by omega), hcolon, htwo _ (by omega)⟩, hcolon, htwo _ (by omega)⟩

variable {bytes : Vector UInt8 8}

theorem decode?_eq (h : bytes.toList = (timeText n).map Char.toUInt8) :
    decode? bytes = some (.ofList (timeText n)) := by
  have hbytes : ByteArray.mk bytes.toArray = ((timeText n).map Char.toUInt8).toByteArray := by
    rw [← h, ← ByteArray.ext_iff.2 List.data_toByteArray]
    rfl
  rw [decode?, hbytes, Text.fromUTF8?_of_isAscii (isAscii_timeText n)]

theorem lt_of_mem_timeBytes (h : bytes.toList = (timeText n).map Char.toUInt8) :
    ∀ b ∈ bytes, b < 0x80 := by
  have hascii := isAscii_timeText n
  rw [Text.isAscii, List.all_eq_true] at hascii
  intro b hb
  rw [← Vector.mem_toList_iff, h, List.mem_map] at hb
  obtain ⟨c, hc, rfl⟩ := hb
  have hlow : c.toNat < 0x80 := of_decide_eq_true (hascii c hc)
  rw [UInt8.lt_iff_toNat_lt]
  exact Nat.lt_of_le_of_lt (Nat.mod_le _ _) hlow

/-- Two times have the same bytes just if they have the same text. -/
theorem timeBytes?_eq_iff {m n : UInt64} :
    timeBytes? m = timeBytes? n ↔ timeText m.toNat = timeText n.toNat := by
  obtain ⟨bytes, hbytes, hlist⟩ := exists_timeBytes n
  obtain ⟨bytes', hbytes', hlist'⟩ := exists_timeBytes m
  rw [hbytes, hbytes', Option.some_inj]
  constructor
  · rintro rfl
    have htexts := (decode?_eq hlist').symm.trans (decode?_eq hlist)
    exact String.ofList_injective (Option.some.inj htexts)
  · intro htext
    rw [← Vector.toList_inj, hlist, hlist', htext]

/-- Every number of seconds in 64 bits has a text of eight ASCII bytes, and no byte of it is too
large. The text shows three fields, with minutes and seconds below sixty, which are read back from
it and from no other text, and which tell the seconds up to a multiple of a hundred hours. So two
numbers have the same bytes just if they differ by such a multiple. The bytes are a text in UTF-8,
so painting from them always shows the time. -/
theorem time_text_reads_back (n : UInt64) :
    ∃ (bytes : Vector UInt8 8) (f : Fields),
      timeBytes? n = some bytes ∧ (∀ b ∈ bytes, b < 0x80) ∧
      decode? bytes = some (.ofList (timeText n.toNat)) ∧ timeText n.toNat = f.text ∧
      (∀ s, Fields.ofText? s = some f ↔ s = timeText n.toNat) ∧ f.total = n.toNat % 360000 ∧
      (∀ m : UInt64, timeBytes? m = some bytes ↔ m.toNat % 360000 = n.toNat % 360000) ∧
      ∀ (outline : Outline) (c : ClockFace) (p : Pane),
        let c := { c with elapsed := n.toNat }
        c.render? outline p = some (c.render outline p) := by
  obtain ⟨bytes, hbytes, hlist⟩ := exists_timeBytes n
  have hdecode := decode?_eq hlist
  refine ⟨bytes, .ofSeconds n.toNat, hbytes, lt_of_mem_timeBytes hlist, hdecode, timeText_eq _,
    fun s => Fields.ofText?_eq_some_iff, Fields.total_ofSeconds _, fun m => ?_, ?_⟩
  · rw [← hbytes, timeBytes?_eq_iff, timeText_eq_iff]
  · intro outline c p c'
    have hseconds : UInt64.ofNat c'.elapsed = n := UInt64.ofNat_toNat
    simp only [render?, hseconds, hbytes, Option.bind_eq_bind, Option.bind_some, hdecode,
      String.toList_ofList]
    -- what is painted before the time is the same by definition
    rfl

/-- The greatest number of 64 bits, and texts that show no time. -/
example :
    timeText 0xFFFFFFFFFFFFFFFF = "31:00:15".toList ∧
      (timeBytes? 0xFFFFFFFFFFFFFFFF).map Vector.toList =
        some ((timeText 0xFFFFFFFFFFFFFFFF).map Char.toUInt8) ∧
      Fields.ofText? "12:60:00".toList = none ∧ Fields.ofText? "1:00:00".toList = none := by
  decide

end ClockFace

end TickDesktop
