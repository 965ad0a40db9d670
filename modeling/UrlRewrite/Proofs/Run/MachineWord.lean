import UrlRewrite.Proofs.Config.Built
import UrlRewrite.Proofs.Flag.Number
import UrlRewrite.Proofs.Run.Order

/-!
# Numbers in machine words

The numbers of flags are natural numbers here, and so are the positions of rules. A machine has them
in words: it reads digits into signed words of 64 bits (`NumberField.readWord`), casts these to
unsigned words of 64 or 16 bits when the flag has its effect (`RuleFlag.effectInWords`), multiplies
the minutes of a lifetime for the header of the cookie (`MachineWord.maxAge?`), and adds what is to
be skipped to a position in unsigned words of 64 bits.

None of this changes a number. The ranges of the fields (`NumberField.Takes`) are all that is needed
for it, and they hold of the number of every flag that has been read (`RuleFlag.takes_of_lookUp`).
`RuleFlag.ExactNumbers` says so of the text of a flag. For a run, the greatest number to skip and
the greatest position come to less than the greatest unsigned word (`Application.IndexFits`), since
the flags of the rules have been read (`Rule.IsRead`).
-/

namespace UrlRewrite

/-! ### Products of words -/

namespace MachineWord

/-- The product of two words, if it is in their range. -/
def mulChecked? (a b : Int64) : Option Int64 :=
  let product := a.toInt * b.toInt
  if Int64.minValue.toInt ≤ product ∧ product ≤ Int64.maxValue.toInt then some (a * b) else none

/-- The product of two words, or else the end of their range that it is beyond. -/
def mulSaturating (a b : Int64) : Int64 :=
  (mulChecked? a b).getD (if a < 0 ↔ b < 0 then Int64.maxValue else Int64.minValue)

/-- The age in seconds for a lifetime in minutes that is not zero. -/
def maxAge? (minutes : Option Int64) : Option Int64 :=
  (minutes.filter (0 < ·)).map (mulSaturating · 60)

variable {n : Nat}

theorem maxInt64_eq : Text.maxInt64 = 9223372036854775807 := rfl

theorem toInt_ofNat (h : n ≤ Text.maxInt64) : (Int64.ofNat n).toInt = n := by
  rw [maxInt64_eq] at h
  exact Int64.toInt_ofNat_of_lt (by omega)

theorem toNat_toUInt64_ofNat (h : n ≤ Text.maxInt64) : (Int64.ofNat n).toUInt64.toNat = n := by
  rw [maxInt64_eq] at h
  rw [Int64.toUInt64_ofNat', UInt64.toNat_ofNat']
  exact Nat.mod_eq_of_lt (by omega)

theorem pos_ofNat_iff (h : n ≤ Text.maxInt64) : 0 < Int64.ofNat n ↔ 0 < n := by
  rw [Int64.lt_iff_toInt_lt, toInt_ofNat h, Int64.toInt_zero]
  exact Int.natCast_pos

/-- Minutes are multiplied by 60 exactly if they are in range in seconds too. -/
theorem mulChecked?_ofNat (h : n ≤ Text.maxInt64) :
    mulChecked? (.ofNat n) 60 = if n * 60 ≤ Text.maxInt64 then some (.ofNat n * 60) else none := by
  have hsixty : (60 : Int64).toInt = 60 := rfl
  simp only [mulChecked?, toInt_ofNat h, hsixty, Int64.toInt_minValue,
    Int64.toInt_maxValue, maxInt64_eq]
  refine if_congr ?_ rfl rfl
  omega

/-- A product within the range is the value of the product of words. -/
theorem toInt_ofNat_mul_sixty (h : 60 * n ≤ Text.maxInt64) :
    (Int64.ofNat n * 60).toInt = (60 * n : Nat) := by
  have hsixty : (60 : Int64).toInt = 60 := rfl
  rw [Int64.toInt_mul, toInt_ofNat (by omega), hsixty]
  rw [maxInt64_eq] at h
  rw [Int.bmod_eq_of_le (by omega) (by omega)]
  omega

/-- The multiplication does not saturate. -/
theorem mulSaturating_ofNat (h : 60 * n ≤ Text.maxInt64) :
    mulSaturating (.ofNat n) 60 = .ofNat n * 60 := by
  rw [mulSaturating, mulChecked?_ofNat (by omega), if_pos (by omega), Option.getD_some]

/-- One minute more than the longest lifetime would saturate. -/
example : mulSaturating 153722867280912931 60 = Int64.maxValue := by decide +kernel

/-- The time in seconds is exact if it is within the range. -/
theorem maxAge?_ofNat {minutes : Option Nat} (h : ∀ n, minutes = some n → 60 * n ≤ Text.maxInt64) :
    (maxAge? (minutes.map .ofNat)).map Int64.toInt = (minutes.filter (0 < ·)).map fun n =>
      ((60 * n : Nat) : Int) := by
  cases minutes with
  | none => rfl
  | some n =>
    have hrange := h n rfl
    have hpos := pos_ofNat_iff (n := n) (by omega)
    by_cases hn : 0 < n
    · simp [maxAge?, Option.filter, hpos, hn, mulSaturating_ofNat hrange,
        toInt_ofNat_mul_sixty hrange]
    · simp [maxAge?, Option.filter, hpos, hn]

end MachineWord

open MachineWord

/-! ### Reading into words -/

namespace NumberField

/-- How the digits are read into a word. -/
def readWord : NumberField → Text → Except ArgumentError Int64
  | skip, digits => (readInteger digits).map .ofInt
  | restarts, digits => (readInteger digits).map .ofInt
  | status, digits => do
    let code := UInt16.ofNat (← (Text.readNat Text.maxPort digits).mapError .decimal)
    if 100 ≤ code ∧ code < 600 then .ok code.toUInt64.toInt64 else .error .statusOutOfRange
  | lifetime, digits => do
    let minutes := Int64.ofInt (← readInteger digits)
    match mulChecked? minutes 60 with
    | some _ => .ok minutes
    | none => .error .lifetimeOutOfRange

variable {field : NumberField} {digits : Text} {n : Nat}

/-- The number is in the range of words. -/
theorem Takes.le (h : field.Takes n) : n ≤ Text.maxInt64 := by
  cases field with
  | skip => exact h
  | restarts => exact h
  | status => exact Nat.le_trans (Nat.le_of_lt h.2) (by decide)
  | lifetime => exact Nat.le_trans (by omega) h

/-- Without a sign, an integer is read as a count is. -/
theorem readInteger_eq (h : RuleFlag.isNumber digits = true) :
    readInteger digits = (RuleFlag.readCount digits).map Int.ofNat := by
  have hsign : digits.head? ≠ some '-' := fun hhead =>
    RuleFlag.not_mem_of_isNumber h (by decide : isDigit '-' = false) (List.mem_of_mem_head? hhead)
  rw [readInteger, Text.readInt_eq_readNat hsign, RuleFlag.readCount]
  cases Text.readNat Text.maxInt64 digits <;> rfl

/-- What is read into a word is the number that is read. -/
theorem readWord_eq (h : RuleFlag.isNumber digits = true) :
    field.readWord digits = (field.read digits).map Int64.ofNat := by
  have hcount :
      (readInteger digits).map Int64.ofInt = (RuleFlag.readCount digits).map Int64.ofNat := by
    rw [readInteger_eq h]
    cases RuleFlag.readCount digits with
    | error e => rfl
    | ok n => exact congrArg Except.ok Int64.ofInt_eq_ofNat
  cases field with
  | skip => exact hcount
  | restarts => exact hcount
  | status =>
    rw [readWord, read, readStatus]
    cases hread : Text.readNat Text.maxPort digits with
    | error e => rfl
    | ok n =>
      obtain ⟨-, -, hbound⟩ := (RuleFlag.readNat_eq_ok_iff h).1 hread
      have hsize : n < UInt16.size := Nat.lt_of_le_of_lt hbound (by decide)
      have hlow : 100 ≤ UInt16.ofNat n ↔ 100 ≤ n := by
        rw [UInt16.le_iff_toNat_le, UInt16.toNat_ofNat_of_lt' hsize]
        rfl
      have hhigh : UInt16.ofNat n < 600 ↔ n < 600 := by
        rw [UInt16.lt_iff_toNat_lt, UInt16.toNat_ofNat_of_lt' hsize]
        rfl
      have hword : (UInt16.ofNat n).toUInt64.toInt64 = .ofNat n := by
        rw [UInt16.toUInt64_ofNat' hsize, UInt64.toInt64_ofNat']
      simp only [Except.mapError, bind, Except.bind, hlow, hhigh, hword]
      split <;> rfl
  | lifetime =>
    rw [readWord, readInteger_eq h, read, RuleFlag.readLifetime]
    cases hread : RuleFlag.readCount digits with
    | error e => rfl
    | ok n =>
      obtain ⟨-, -, hbound⟩ := (RuleFlag.readCount_eq_ok_iff h).1 hread
      have hword : Int64.ofInt (Int.ofNat n) = .ofNat n := Int64.ofInt_eq_ofNat
      -- the product is not kept, it only has to be a word
      simp only [Except.map, bind, Except.bind, hword, mulChecked?_ofNat hbound]
      by_cases hrange : n * 60 ≤ Text.maxInt64
      · simp only [if_pos hrange]
      · simp only [if_neg hrange]

end NumberField

/-! ### Effects with numbers -/

/-- `e.Has field n`: the effect has the number of a flag. A status has it if it is no redirection,
else a redirect. -/
inductive Effect.Has : Effect → NumberField → Nat → Prop
  | skip (n : Nat) : Has (.skip n) .skip n
  | restarts (n : Nat) : Has (.next (some n)) .restarts n
  | redirect {n : Nat} (hcode : 300 ≤ n ∧ n < 400) : Has (.redirect n) .status n
  | status {n : Nat} (hcode : ¬ (300 ≤ n ∧ n < 400)) : Has (.status n) .status n
  | lifetime {c : Cookie} {n : Nat} (hminutes : c.lifetime = some n) : Has (.cookie c) .lifetime n

namespace RuleFlag

/-- The effect of a flag, with its number cast from the word that it has been read into. -/
def effectInWords : RuleFlag → Except EvalError (Option Effect)
  | next most => .ok (some (.next (most.map fun n => (Int64.ofNat n).toUInt64.toNat)))
  | skip n => .ok (some (.skip (Int64.ofNat n).toUInt64.toNat))
  | redirect (.code n) =>
    let code := (Int64.ofNat n).toUInt64.toUInt16
    .ok (some (if 300 ≤ code ∧ code < 400 then .redirect code.toNat else .status code.toNat))
  | f => f.effect

variable {field : NumberField} {f : RuleFlag} {s : Text} {n : Nat}

theorem isRedirection_iff : isRedirection n = true ↔ 300 ≤ n ∧ n < 400 := by
  simp [isRedirection]

/-- The effect of a flag with a number has this number. -/
theorem exists_effect_of_number? (hf : f.number? = some (field, n)) :
    ∃ e, f.effect = .ok (some e) ∧ e.Has field n := by
  -- four kinds of flags have a number, and each has an effect with it
  cases f with
  | skip m =>
    obtain ⟨rfl, rfl⟩ := Prod.mk.inj (Option.some.inj hf)
    exact ⟨_, rfl, .skip m⟩
  | next most =>
    obtain ⟨m, rfl, heq⟩ := Option.map_eq_some_iff.1 hf
    obtain ⟨rfl, rfl⟩ := Prod.mk.inj heq
    exact ⟨_, rfl, .restarts m⟩
  | redirect argument =>
    cases argument with
    | code m =>
      obtain ⟨rfl, rfl⟩ := Prod.mk.inj (Option.some.inj hf)
      refine ⟨_, rfl, ?_⟩
      split
      · rename_i hcode
        exact .redirect (isRedirection_iff.1 hcode)
      · rename_i hcode
        exact .status fun h => hcode (isRedirection_iff.2 h)
    | usual => cases hf
    | named name => cases hf
  | cookie fields =>
    obtain ⟨m, hm, heq⟩ := Option.map_eq_some_iff.1 hf
    obtain ⟨rfl, rfl⟩ := Prod.mk.inj heq
    exact ⟨_, rfl, .lifetime hm⟩
  | _ => cases hf

/-- Casts do not change a number in range. -/
theorem effectInWords_eq (h : ∀ field n, f.number? = some (field, n) → field.Takes n) :
    f.effectInWords = f.effect := by
  cases f with
  | skip n => rw [effectInWords, toNat_toUInt64_ofNat (h .skip n rfl).le, effect]
  | next most =>
    cases most with
    | none => rfl
    | some n =>
      rw [effectInWords, Option.map_some, toNat_toUInt64_ofNat (h .restarts n rfl).le, effect]
  | redirect argument =>
    cases argument with
    | code n =>
      have htakes : 100 ≤ n ∧ n < 600 := h .status n rfl
      -- so that nothing is cut off by the cast to 16 bits
      have hcode : (Int64.ofNat n).toUInt64.toUInt16.toNat = n := by
        rw [UInt64.toNat_toUInt16, toNat_toUInt64_ofNat (h .status n rfl).le]
        exact Nat.mod_eq_of_lt (by omega)
      have hredirection :
          (300 ≤ (Int64.ofNat n).toUInt64.toUInt16 ∧ (Int64.ofNat n).toUInt64.toUInt16 < 400) ↔
          isRedirection n = true := by
        rw [isRedirection_iff, UInt16.le_iff_toNat_le, UInt16.lt_iff_toNat_lt, hcode]
        rfl
      simp only [effectInWords, effect, RedirectArgument.status, Except.map, hcode, hredirection]
    | usual => rfl
    | named name => rfl
  | _ => rfl

/-- The number of a flag that has been read is in range. -/
theorem takes_of_lookUp (h : FlagFamily.lookUp s = .ok f) (hf : f.number? = some (field, n)) :
    field.Takes n := by
  obtain ⟨digits, -, hmeans⟩ := exists_writes_of_lookUp h hf
  exact hmeans.taken

/-- The lifetime of a cookie is in range in seconds too. -/
theorem minutes_of_lookUp {fields : CookieFields} (h : FlagFamily.lookUp s = .ok (cookie fields))
    (hn : fields.lifetime = some n) : 60 * n ≤ Text.maxInt64 := by
  have hf : (cookie fields).number? = some (.lifetime, n) := by rw [number?, hn, Option.map_some]
  exact takes_of_lookUp h hf

end RuleFlag

/-! ### Ages of cookies -/

namespace Cookie

/-- The value of the header with some age. -/
def headerWithAge (c : Cookie) (age : Option Text) : Text :=
  c.name ++ '=' :: c.value ++ attributeText "Domain" c.domain ++ attributeText "Max-Age" age ++
    attributeText "Path" c.path ++ (if c.secure then "; Secure".toList else []) ++
    (if c.httpOnly then "; HttpOnly".toList else [])

/-- The age is 60 times the lifetime, if there is one and it is not zero. -/
theorem header_eq {c : Cookie} (h : ∀ n, c.lifetime = some n → 60 * n ≤ Text.maxInt64) :
    c.header = c.headerWithAge ((c.lifetime.filter (0 < ·)).map fun n => Text.ofNat (60 * n)) := by
  rw [header, maxAge?_eq h, Option.map_map, headerWithAge]
  rfl

/-- It is the same if it is computed with words. -/
theorem header_eq_words {c : Cookie} (h : ∀ n, c.lifetime = some n → 60 * n ≤ Text.maxInt64) :
    c.header = c.headerWithAge ((MachineWord.maxAge? (c.lifetime.map .ofNat)).map fun w =>
      Text.ofInt w.toInt) := by
  have hage := congrArg (Option.map Text.ofInt) (maxAge?_ofNat h)
  rw [Option.map_map, Option.map_map] at hage
  exact (header_eq h).trans (congrArg c.headerWithAge hage.symm)

end Cookie

namespace RuleFlag

open FlagFamily

/-- **Exact numbers**, for the text of a flag. -/
structure ExactNumbers (s : Text) : Prop where
  /-- The number of a flag is what the digits in its text mean, and the word that they are read into
  has its value. -/
  written : ∀ (f : RuleFlag) (field : NumberField) (n : Nat), lookUp s = .ok f →
    f.number? = some (field, n) →
    ∃ digits, field.Writes s digits ∧ field.Means digits n ∧ ∃ w,
    field.readWord digits = .ok w ∧ w.toInt = n
  /-- Digits that mean a number are accepted, -/
  accepted : ∀ (field : NumberField) (digits : Text) (n : Nat), field.Writes s digits →
    field.Means digits n →
    ∃ f : RuleFlag, lookUp s = .ok f ∧ f.number? = some (field, n)
  /-- and all others are rejected, for the reason that they cannot be read into a word. -/
  rejected : ∀ (field : NumberField) (digits : Text), field.Writes s digits →
    (∀ n, ¬ field.Means digits n) →
    ∃ cause, field.readWord digits = .error cause ∧
      lookUp (F := RuleFlag) s = .error (.invalidArgument s field.title digits cause)
  /-- The flag has an effect with its number, -/
  effect : ∀ (f : RuleFlag) (field : NumberField) (n : Nat), lookUp s = .ok f →
    f.number? = some (field, n) →
    ∃ e, f.effect = .ok (some e) ∧ e.Has field n
  /-- which is the same if the number is cast. -/
  cast : ∀ f : RuleFlag, lookUp s = .ok f → f.effectInWords = f.effect
  /-- The age of a cookie is 60 times its lifetime. There is none for a lifetime of zero, or without
  a lifetime. -/
  age : ∀ fields : CookieFields, lookUp s = .ok (cookie fields) →
    fields.toCookie.header =
      fields.toCookie.headerWithAge
        ((fields.lifetime.filter (0 < ·)).map fun n => Text.ofNat (60 * n))
  /-- It is the same in words, -/
  ageInWords : ∀ fields : CookieFields, lookUp s = .ok (cookie fields) →
    fields.toCookie.header =
      fields.toCookie.headerWithAge
        ((maxAge? (fields.lifetime.map .ofNat)).map fun w => Text.ofInt w.toInt)
  /-- and the multiplication does not saturate. -/
  product : ∀ (fields : CookieFields) (n : Nat), lookUp s = .ok (cookie fields) →
    fields.lifetime = some n →
    mulSaturating (.ofNat n) 60 = .ofNat n * 60 ∧ (Int64.ofNat n * 60).toInt = (60 * n : Nat)

/-- The numbers of every flag are exact. -/
theorem exactNumbers (s : Text) : ExactNumbers s where
  written f field n h hf := by
    obtain ⟨digits, hwrites, hmeans⟩ := exists_writes_of_lookUp h hf
    refine ⟨digits, hwrites, hmeans, .ofNat n, ?_, toInt_ofNat hmeans.taken.le⟩
    rw [NumberField.readWord_eq hwrites.isNumber,
      (NumberField.read_eq_ok_iff hwrites.isNumber).2 hmeans]
    rfl
  accepted field digits n hwrites hmeans := by
    obtain ⟨make, hmake, hread⟩ := lookUp_of_writes hwrites
    rw [argument_eq_ok_iff.2 ((NumberField.read_eq_ok_iff hwrites.isNumber).2 hmeans)] at hread
    exact ⟨make n, hread, hmake n⟩
  -- a number that means nothing is out of range, for the reader of words too
  rejected field digits hwrites hnone := by
    obtain ⟨make, -, hread⟩ := lookUp_of_writes hwrites
    cases hdigits : field.read digits with
    | error cause =>
      refine ⟨cause, ?_, ?_⟩
      · rw [NumberField.readWord_eq hwrites.isNumber, hdigits]
        rfl
      · rw [hread, argument, hdigits]
        rfl
    | ok n => exact absurd ((NumberField.read_eq_ok_iff hwrites.isNumber).1 hdigits) (hnone n)
  effect f field n _ hf := exists_effect_of_number? hf
  cast f h := effectInWords_eq fun _ _ => takes_of_lookUp h
  age fields h := Cookie.header_eq fun n hn => minutes_of_lookUp h hn
  ageInWords fields h := Cookie.header_eq_words fun n hn => minutes_of_lookUp h hn
  product fields n h hn :=
    ⟨mulSaturating_ofNat (minutes_of_lookUp h hn), toInt_ofNat_mul_sixty (minutes_of_lookUp h hn)⟩

end RuleFlag

/-! ### Positions in a run -/

namespace FlagSet

open FlagFamily

/-- The flags of a set that has been read have been looked up. -/
theorem exists_lookUp_of_read {F : Type} [FlagFamily F] {s : Text} {flags : FlagSet F} {f : F}
    (h : read s = .ok flags) (hf : f ∈ flags.flags) : ∃ w, lookUp w = .ok f := by
  obtain ⟨listed, hlisted, rfl⟩ := map_eq_ok_iff.1 h
  obtain ⟨-, rfl⟩ := mapM_eq_ok_iff.1 hlisted
  -- the flag is the last one of its kind in the list
  obtain ⟨k, -, hfound⟩ := List.mem_filterMap.1 hf
  obtain ⟨w, -, hw⟩ := List.mem_filterMap.1 (List.mem_reverse.1 (List.mem_of_find?_eq_some hfound))
  exact ⟨w, eq_ok_of_toOption hw⟩

variable {flags : FlagSet RuleFlag} {s : Text}

/-- No rule skips more than a word can hold. -/
theorem skip_le_of_read (h : read s = .ok flags) : flags.skip ≤ Text.maxInt64 := by
  rw [skip]
  split
  · rename_i n hfound
    obtain ⟨w, hw⟩ := exists_lookUp_of_read h (List.mem_of_find?_eq_some hfound)
    have hnumber : (RuleFlag.skip n).number? = some (.skip, n) := rfl
    exact RuleFlag.takes_of_lookUp hw hnumber
  · exact Nat.zero_le _

end FlagSet

/-- **The position behind a rule fits**, with all that the rule skips: it is an unsigned word of 64
bits. -/
structure Application.IndexFits (a : Application) : Prop where
  /-- The position where the run goes on. -/
  next : a.index + 1 + (Control.ofEffects a.effects).skip < UInt64.size
  /-- What one effect adds. -/
  skip : ∀ n, .skip n ∈ a.effects → a.index + 1 + n < UInt64.size

/-- Effects skip as much as each of them at least. -/
theorem Control.le_skip_foldl (es : List Effect) (c : Control) :
    c.skip ≤ (es.foldl add c).skip ∧ ∀ n, .skip n ∈ es → n ≤ (es.foldl add c).skip := by
  -- the induction carries along the control so far, to which no effect adds less than nothing
  induction es generalizing c with
  | nil => simp
  | cons e es ih =>
    obtain ⟨hle, hmem⟩ := ih (c.add e)
    have hadd : c.skip ≤ (c.add e).skip := by cases e <;> simp [add]
    rw [List.foldl_cons]
    refine ⟨Nat.le_trans hadd hle, fun n hn => ?_⟩
    rcases List.mem_cons.1 hn with rfl | hn
    · exact Nat.le_trans (Nat.le_add_left n c.skip) hle
    · exact hmem n hn

namespace Application

variable {a : Application}

/-- An application skips as much as the flags of its rule say, or nothing. -/
theorem skip_le (h : a.rule.IsRead) : (Control.ofEffects a.effects).skip ≤ Text.maxInt64 := by
  obtain ⟨s, hread⟩ := h
  cases hm : a.matched with
  | true =>
    rw [FlagSet.ofEffects_eq_control (effects_of_matched hm)]
    exact FlagSet.skip_le_of_read hread
  | false =>
    rw [effects_of_not_matched hm]
    exact Nat.zero_le _

theorem IndexFits.of_lt (hindex : a.index < Text.maxInt64) (h : a.rule.IsRead) : a.IndexFits := by
  have hskip := skip_le h
  -- both the position and what is skipped are less than half of what fits
  have hnext : a.index + 1 + (Control.ofEffects a.effects).skip < UInt64.size := by
    rw [maxInt64_eq] at hindex hskip
    simp only [UInt64.size]
    omega
  refine ⟨hnext, fun n hn => Nat.lt_of_le_of_lt ?_ hnext⟩
  exact Nat.add_le_add_left ((Control.le_skip_foldl a.effects {}).2 n hn) _

end Application

/-- All along a run the positions fit. -/
theorem Run.Trace.indexFits {rules : List GuardedRule} {bound : Nat} {r : Run}
    {as : List Application} {result : Except EvalError Outcome × Bindings}
    (h : Trace rules bound r as result) (hlength : rules.length ≤ Text.maxInt64)
    (hread : ∀ g ∈ rules, g.rule.IsRead) : ∀ a ∈ as, a.IndexFits := by
  intro a ha
  have hg := h.rule_at a ha
  obtain ⟨hlt, -⟩ := List.getElem?_eq_some_iff.1 hg
  exact .of_lt (Nat.lt_of_lt_of_le hlt hlength) (hread a.guarded (List.mem_of_getElem? hg))

/-- The history of a request is that of a run, or empty. -/
theorem Scope.indexFits {scope : Scope} (hlength : scope.rules.length ≤ Text.maxInt64)
    (hread : ∀ g ∈ scope.rules, g.rule.IsRead) (r : Request) (bound : Nat) (b : Bindings) :
    ∀ a ∈ scope.history r bound b, a.IndexFits := by
  rw [history]
  split
  · exact (Run.trace_finish scope.rules bound _).indexFits hlength hread
  · simp

/-- **Numbers are exact**, those of all flags and the positions in all runs of rules that have been
read. All rules of a configuration have been, so that positions fit in whatever a request causes. -/
theorem RuleFlag.numbers_exact : (∀ s, ExactNumbers s) ∧
    (∀ rules : List GuardedRule, rules.length ≤ Text.maxInt64 → (∀ g ∈ rules, g.rule.IsRead) →
      ∀ (bound : Nat) (r : Run), ∀ a ∈ Run.history rules bound r, a.IndexFits) ∧
    ∀ (s : Text) (m : MainContext), MainContext.read s = .ok m → ∀ (ip : Text) (port : Nat)
    (asked : Option Text),
      (m.select ip port asked).rules.length ≤ Text.maxInt64 →
        ∀ (r : Request) (bound : Nat) (b : Bindings),
        ∀ a ∈ (m.select ip port asked).history r bound b, a.IndexFits :=
  ⟨exactNumbers, fun rules hlength hread bound r =>
    (Run.trace_finish rules bound r).indexFits hlength hread,
    fun _ _ hread ip port asked hlength =>
    Scope.indexFits hlength (MainContext.isRead_of_mem_rules hread ip port asked)⟩

/-- The greatest number of rules to skip, which leads a run of one rule just beyond the greatest
signed word. -/
theorem RuleFlag.numbers_exact_greatest :
    ∃ r : Rule, Rule.build "^".toList "-".toList "S=9223372036854775807".toList = .ok r ∧
      (∃ digits w, NumberField.skip.Writes "S=9223372036854775807".toList digits ∧
        NumberField.skip.readWord digits = .ok w ∧ w = Int64.maxValue) ∧
      (Run.history [⟨[], r⟩] 0 (Run.start "/".toList .empty)).map
        (fun a => a.index + 1 + (Control.ofEffects a.effects).skip) = [Text.maxInt64 + 1] ∧
      ∀ a ∈ Run.history [⟨[], r⟩] 0 (Run.start "/".toList .empty), a.IndexFits := by
  have hbuild :
      ((Rule.build "^".toList "-".toList "S=9223372036854775807".toList).toOption.map fun r =>
        (Run.history [⟨[], r⟩] 0 (Run.start "/".toList .empty)).map
          fun a => a.index + 1 + (Control.ofEffects a.effects).skip) =
      some [Text.maxInt64 + 1] := by
    decide +kernel
  have hflag : FlagFamily.lookUp "S=9223372036854775807".toList = .ok (skip Text.maxInt64) := by
    decide +kernel
  obtain ⟨r, hr, hpositions⟩ := Option.map_eq_some_iff.1 hbuild
  have hrule := eq_ok_of_toOption hr
  obtain ⟨digits, hwrites, -, w, hread, hw⟩ := (numbers_exact.1 _).written _ .skip _ hflag rfl
  refine ⟨r, hrule, ⟨digits, w, hwrites, hread, Int64.toInt_inj.1 (hw.trans rfl)⟩, hpositions, ?_⟩
  exact numbers_exact.2.1 _ (by simp [maxInt64_eq]) (by simpa using Rule.isRead_of_build hrule) 0 _

end UrlRewrite
