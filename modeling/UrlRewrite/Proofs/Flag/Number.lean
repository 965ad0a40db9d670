import UrlRewrite.Proofs.Flag.Unambiguous
import UrlRewrite.Proofs.Text.Decimal

/-!
# Numbers in flags

A flag of a rule can have a number: how many rules to skip, how often to restart, the status of a
redirect, or the lifetime of a cookie (`NumberField`). It is written with digits, of any script,
behind the word of the flag or in the fourth place of a cookie (`NumberField.Writes`).

The digits mean a number if they are those from `0` to `9` and the number is in the range of the
field (`NumberField.Means`). Then the flag has this number, and else the text is rejected with the
digits and the reason (`RuleFlag.lookUp_of_writes`). There is no other way to come by a number: a
flag that has one has been written like that (`RuleFlag.exists_writes_of_lookUp`).
-/

namespace UrlRewrite

/-- Where a flag can have a number. -/
inductive NumberField where
  | skip
  | restarts
  | status
  | lifetime
deriving DecidableEq, Repr

namespace NumberField

/-- The kind of the flags that have the field. -/
def kind : NumberField → RuleFlag.Kind
  | skip => .skip
  | restarts => .next
  | status => .redirect
  | lifetime => .cookie

/-- How messages call the field. -/
def title : NumberField → String
  | skip => "number"
  | restarts => "maximum"
  | status => "status_code"
  | lifetime => "lifetime"

/-- How the digits are read. -/
def read : NumberField → Text → Except ArgumentError Nat
  | skip => RuleFlag.readCount
  | restarts => RuleFlag.readCount
  | status => readStatus
  | lifetime => RuleFlag.readLifetime

/-- The range of the field: integers of 64 bits, in seconds too for a lifetime in minutes, or the
numbers of statuses. -/
def Takes : NumberField → Nat → Prop
  | skip, n => n ≤ Text.maxInt64
  | restarts, n => n ≤ Text.maxInt64
  | status, n => 100 ≤ n ∧ n < 600
  | lifetime, n => 60 * n ≤ Text.maxInt64

/-- **What digits mean** in a field: a number in decimal that is in range. -/
structure Means (field : NumberField) (digits : Text) (n : Nat) : Prop where
  ascii : ∀ c ∈ digits, c.isDigit = true
  decimal : Nat.ofDigitChars 10 digits 0 = n
  taken : field.Takes n

end NumberField

/-- The word stands for the kind, in whatever case. -/
def RuleFlag.Kind.IsWord (k : RuleFlag.Kind) (word : Text) : Prop :=
  ∃ w ∈ k.words, Text.isKeyword w.toList word = true

/-- **How a flag with a number is written.** `field.Writes s digits`: the text is the word of the
flag, an equals sign, and the digits. The lifetime of a cookie has three other parts in front of it,
and up to three behind. -/
inductive NumberField.Writes : NumberField → Text → Text → Prop
  | argument {field : NumberField} {word digits : Text} (hfield : field ≠ .lifetime)
      (hword : field.kind.IsWord word)
    (hdigits : RuleFlag.isNumber digits = true) : Writes field (word ++ '=' :: digits) digits
  | lifetime {word name value domain digits : Text} {more : List Text}
      (hword : RuleFlag.Kind.cookie.IsWord word)
    (hname : name ≠ []) (hparts : ∀ part ∈ name :: value :: domain :: more, ':' ∉ part)
    (hdigits : RuleFlag.isNumber digits = true) (hmore : more.length ≤ 3) :
    Writes .lifetime
      (word ++ '=' :: Text.joinWith [':'] (name :: value :: domain :: digits :: more)) digits

/-- What is written for a field has the form of a number. -/
theorem NumberField.Writes.isNumber {field : NumberField} {s digits : Text}
    (h : field.Writes s digits) :
    RuleFlag.isNumber digits = true := by
  cases h <;> assumption

/-- The number of a flag, if it has one. -/
def RuleFlag.number? : RuleFlag → Option (NumberField × Nat)
  | skip n => some (.skip, n)
  | next most => most.map (.restarts, ·)
  | redirect (.code n) => some (.status, n)
  | cookie fields => fields.lifetime.map (.lifetime, ·)
  | _ => none

/-! ### Reading digits -/

namespace RuleFlag

variable {digits : Text} {n : Nat}

theorem ne_nil_of_isNumber (h : isNumber digits = true) : digits ≠ [] := by
  rintro rfl
  cases h

theorem isDigit_of_isNumber (h : isNumber digits = true) : ∀ c ∈ digits, isDigit c = true :=
  List.all_eq_true.1 (Bool.and_eq_true_iff.1 h).2

theorem not_mem_of_isNumber {c : Char} (h : isNumber digits = true) (hc : isDigit c = false) :
    c ∉ digits := by
  intro hmem
  rw [isDigit_of_isNumber h c hmem] at hc
  cases hc

/-- Without a sign, what is read is what the digits mean. -/
theorem readNat_eq_ok_iff (h : isNumber digits = true) {bound : Nat} :
    Text.readNat bound digits = .ok n ↔
      (∀ c ∈ digits, c.isDigit = true) ∧ Nat.ofDigitChars 10 digits 0 = n ∧ n ≤ bound := by
  constructor
  · intro hread
    obtain ⟨run, rfl | rfl, -, hrun, rfl, hbound⟩ := Text.exists_of_readNat hread
    · exact ⟨hrun, rfl, hbound⟩
    · exact absurd List.mem_cons_self (not_mem_of_isNumber h (by decide : isDigit '+' = false))
  · rintro ⟨hascii, rfl, hbound⟩
    exact Text.readNat_of_isDigit (ne_nil_of_isNumber h) hascii hbound

/-- A count is read if it is written in decimal digits and within the range. -/
theorem readCount_eq_ok_iff (h : isNumber digits = true) :
    readCount digits = .ok n ↔
      (∀ c ∈ digits, c.isDigit = true) ∧ Nat.ofDigitChars 10 digits 0 = n ∧ n ≤ Text.maxInt64 := by
  rw [readCount, mapError_eq_ok_iff, readNat_eq_ok_iff h]

/-- A lifetime in minutes is read if it is within the range in seconds as well. -/
theorem readLifetime_eq_ok_iff (h : isNumber digits = true) :
    readLifetime digits = .ok n ↔
      (∀ c ∈ digits, c.isDigit = true) ∧ Nat.ofDigitChars 10 digits 0 = n ∧
        60 * n ≤ Text.maxInt64 := by
  have hcheck :
      readLifetime digits = .ok n ↔ readCount digits = .ok n ∧ n * 60 ≤ Text.maxInt64 := by
    rw [readLifetime]
    cases readCount digits with
    | error e => simp
    | ok m => grind
  rw [hcheck, readCount_eq_ok_iff h]
  exact ⟨fun ⟨⟨hascii, hvalue, _⟩, hbound⟩ => ⟨hascii, hvalue, by omega⟩,
    fun ⟨hascii, hvalue, hbound⟩ => ⟨⟨hascii, hvalue, by omega⟩, by omega⟩⟩

/-- A status is read if it is one from 100 to 599. -/
theorem readStatus_eq_ok_iff (h : isNumber digits = true) :
    readStatus digits = .ok n ↔
      (∀ c ∈ digits, c.isDigit = true) ∧ Nat.ofDigitChars 10 digits 0 = n ∧ 100 ≤ n ∧ n < 600 := by
  have hcheck :
      readStatus digits = .ok n ↔ Text.readNat Text.maxPort digits = .ok n ∧ 100 ≤ n ∧ n < 600 := by
    rw [readStatus]
    cases Text.readNat Text.maxPort digits with
    | error e => simp
    | ok m => grind
  rw [hcheck, readNat_eq_ok_iff h, Text.maxPort]
  exact ⟨fun ⟨⟨hascii, hvalue, _⟩, hrange⟩ => ⟨hascii, hvalue, hrange⟩,
    fun ⟨hascii, hvalue, hrange⟩ => ⟨⟨hascii, hvalue, by omega⟩, hrange⟩⟩

end RuleFlag

/-- Digits are read as what they mean in the field. -/
theorem NumberField.read_eq_ok_iff {field : NumberField} {digits : Text} {n : Nat}
    (h : RuleFlag.isNumber digits = true) : field.read digits = .ok n ↔ field.Means digits n := by
  have hmeans : field.Means digits n ↔
      (∀ c ∈ digits, c.isDigit = true) ∧ Nat.ofDigitChars 10 digits 0 = n ∧ field.Takes n :=
    ⟨fun ⟨hascii, hvalue, htaken⟩ => ⟨hascii, hvalue, htaken⟩, fun ⟨hascii, hvalue, htaken⟩ =>
      ⟨hascii, hvalue, htaken⟩⟩
  rw [hmeans]
  cases field with
  | skip => exact RuleFlag.readCount_eq_ok_iff h
  | restarts => exact RuleFlag.readCount_eq_ok_iff h
  | status => exact RuleFlag.readStatus_eq_ok_iff h
  | lifetime => exact RuleFlag.readLifetime_eq_ok_iff h

/-! ### Looking up flags with numbers -/

namespace RuleFlag

open FlagFamily

variable {field : NumberField} {f : RuleFlag} {s digits word : Text} {n : Nat}

/-- There is no equals sign in the word of a flag. -/
theorem Kind.IsWord.not_mem {k : Kind} (h : k.IsWord word) : '=' ∉ word := by
  obtain ⟨w, hw, hkeyword⟩ := h
  have hall : ∀ k ∈ Kind.all, ∀ w ∈ k.words, simpleFold '=' ∉ w.toList.map simpleFold := by
    decide +kernel
  intro hmem
  -- then it would be in a word of the kind too, since both have the same folding
  have hfold := List.mem_map_of_mem (f := simpleFold) hmem
  rw [beq_iff_eq.1 hkeyword] at hfold
  exact hall k k.mem_all w hw hfold

theorem cutArgument_append (hword : '=' ∉ word) (argument : Text) :
    cutArgument (word ++ '=' :: argument) = (word, some argument) := by
  rw [cutArgument, Text.splitFirst_append hword]

/-- The kind that a word stands for reads the argument behind it. -/
theorem read?_append {k : Kind} (hword : k.IsWord word) (argument : Text) :
    read? k (word ++ '=' :: argument) = k.withArgument? (word ++ '=' :: argument) argument := by
  have hkeyword : k.words.any (fun w => Text.isKeyword w.toList word) = true :=
    List.any_eq_true.2 hword
  simp only [read?, cutArgument_append hword.not_mem, hkeyword, if_true]

/-- What is looked up has been read by a kind. -/
theorem exists_read?_of_lookUp (h : lookUp s = .ok f) : ∃ k : Kind, read? k s = some (.ok f) := by
  cases hfound : (FlagFamily.kinds (F := RuleFlag)).findSome? fun k => FlagFamily.read? k s with
  | none => simp [lookUp, lookUpIn, hfound] at h
  | some r =>
    obtain ⟨k, -, hread⟩ := List.exists_of_findSome?_eq_some hfound
    obtain rfl : r = .ok f := by simpa [lookUp, lookUpIn, hfound] using h
    exact ⟨k, hread⟩

/-- A flag without an argument has no number. -/
theorem number?_of_plain? {k : Kind} (h : k.plain? = some f) : f.number? = none := by
  cases k with
  | cookie | env | handler | skip | contentType => cases h
  | _ =>
    obtain rfl := Option.some.inj h
    rfl

/-- An argument is read if its text is. -/
theorem argument_eq_ok_iff {title : String} {read : Text → Except ArgumentError Nat} :
    argument s title digits read = .ok n ↔ read digits = .ok n :=
  mapError_eq_ok_iff

/-- The fourth field of a cookie is its lifetime. -/
theorem cookieFields?_lifetime {name value : Text} (hname : name ≠ []) (domain : Text)
    (hdigits : isNumber digits = true) {more : List Text} (hmore : more.length ≤ 3) :
    cookieFields? s (name :: value :: domain :: digits :: more) =
      some ((argument s "lifetime" digits readLifetime).map fun minutes =>
        ⟨name, value, some domain, some minutes, more[0]?, more[1]?, more[2]?⟩) := by
  simp [cookieFields?, hname, hdigits, Nat.not_lt.2 hmore]

/-- A cookie with a lifetime has been written with four parts at least. -/
theorem exists_of_lifetime {parts : List Text} {fields : CookieFields}
    (h : cookieFields? s parts = some (.ok fields)) (hfields : fields.lifetime = some n) :
    ∃ name value domain digits more, parts = name :: value :: domain :: digits :: more ∧ name ≠ [] ∧
      isNumber digits = true ∧ more.length ≤ 3 ∧ readLifetime digits = .ok n := by
  rcases cookieFields?_cases h with ⟨others, hok, hnone⟩ |
    ⟨name, value, domain, digits, more, hparts, hname, hdigits, hmore, hr⟩
  · obtain rfl := Except.ok.inj hok
    rw [hnone] at hfields
    cases hfields
  · obtain ⟨m, hm, rfl⟩ := map_eq_ok_iff.1 hr.symm
    obtain rfl : m = n := Option.some.inj hfields
    exact ⟨name, value, domain, digits, more, hparts, hname, hdigits, hmore,
      argument_eq_ok_iff.1 hm⟩

/-- A number that is read from all of the argument has been written there. -/
theorem exists_writes_of_argument (own : NumberField) {make : Nat → RuleFlag} {text : Text}
    (hown : own ≠ .lifetime) (hword : own.kind.IsWord word) (hdigits : isNumber text = true)
    (hmake : ∀ m, (make m).number? = some (own, m))
    (h : (argument s own.title text own.read).map make = .ok f) (hf : f.number? = some (field, n)) :
    ∃ digits, field.Writes (word ++ '=' :: text) digits ∧ field.read digits = .ok n := by
  obtain ⟨m, hm, rfl⟩ := map_eq_ok_iff.1 h
  obtain ⟨rfl, rfl⟩ := Prod.mk.inj (Option.some.inj ((hmake m).symm.trans hf))
  exact ⟨text, .argument hown hword hdigits, argument_eq_ok_iff.1 hm⟩

/-- A number that a kind reads is in the argument. -/
theorem exists_writes_of_withArgument? {k : Kind} {text : Text} (hword : k.IsWord word)
    (h : k.withArgument? s text = some (.ok f)) (hf : f.number? = some (field, n)) :
    ∃ digits, field.Writes (word ++ '=' :: text) digits ∧ field.read digits = .ok n := by
  cases k with
  | cookie =>
    obtain ⟨r, hr, hfields⟩ := Option.map_eq_some_iff.1 h
    obtain ⟨fields, rfl, rfl⟩ := map_eq_ok_iff.1 hfields
    obtain ⟨minutes, hlifetime, heq⟩ := Option.map_eq_some_iff.1 hf
    obtain ⟨rfl, rfl⟩ := Prod.mk.inj heq
    obtain ⟨name, value, domain, digits, more, hparts, hname, hdigits, hmore, hread⟩ :=
      exists_of_lifetime hr hlifetime
    -- the parts are those between the colons of the argument
    have hcolon : ∀ part ∈ name :: value :: domain :: digits :: more, ':' ∉ part := by
      rw [← hparts]
      exact fun part => Text.not_mem_of_mem_splitAll
    rw [← Text.joinWith_splitAll ':' text, hparts]
    exact ⟨digits, .lifetime hword hname (by grind) hdigits hmore, hread⟩
  | next =>
    obtain ⟨hdigits, h⟩ := Option.ite_none_right_eq_some.1 h
    exact exists_writes_of_argument .restarts (by simp) hword hdigits (fun _ => rfl)
      (Option.some.inj h) hf
  | skip =>
    obtain ⟨hdigits, h⟩ := Option.ite_none_right_eq_some.1 h
    exact exists_writes_of_argument .skip (by simp) hword hdigits (fun _ => rfl)
      (Option.some.inj h) hf
  | redirect =>
    simp only [Kind.withArgument?] at h
    split at h
    · rename_i hdigits
      exact exists_writes_of_argument .status (by simp) hword hdigits (fun _ => rfl)
        (Option.some.inj h) hf
    · -- a name is no number
      split at h <;> cases h
      cases hf
  | env | handler | contentType =>
    obtain ⟨a, -, ha⟩ := Option.map_eq_some_iff.1 h
    obtain rfl := Except.ok.inj ha
    cases hf
  | _ => cases h

/-- **A number has been written.** The flag has one only if its text has digits for it. -/
theorem exists_writes_of_lookUp (h : lookUp s = .ok f) (hf : f.number? = some (field, n)) :
    ∃ digits, field.Writes s digits ∧ field.Means digits n := by
  obtain ⟨k, hread⟩ := exists_read?_of_lookUp h
  have hword := List.any_eq_true.1 (isKeyword_of_read? hread)
  rw [read?] at hread
  obtain ⟨-, hread⟩ := Option.ite_none_right_eq_some.1 hread
  cases hcut : s.splitFirst '=' with
  | none =>
    -- without an equals sign there is no argument
    simp only [hcut] at hread
    obtain ⟨g, hplain, hg⟩ := Option.map_eq_some_iff.1 hread
    obtain rfl := Except.ok.inj hg
    rw [number?_of_plain? hplain] at hf
    cases hf
  | some parts =>
    obtain ⟨word, text⟩ := parts
    simp only [cutArgument, hcut] at hread hword
    obtain ⟨rfl, -⟩ := Text.eq_append_of_splitFirst hcut
    obtain ⟨digits, hwrites, hdigits⟩ := exists_writes_of_withArgument? hword hread hf
    exact ⟨digits, hwrites, (NumberField.read_eq_ok_iff hwrites.isNumber).1 hdigits⟩

/-- **Written digits are read**, and what is read is the number of the flag. -/
theorem lookUp_of_writes (h : field.Writes s digits) :
    ∃ make : Nat → RuleFlag, (∀ n, (make n).number? = some (field, n)) ∧
      lookUp s = (argument s field.title digits field.read).map make := by
  -- no other kind could read the text
  suffices hread : ∃ make : Nat → RuleFlag, (∀ n, (make n).number? = some (field, n)) ∧
      read? field.kind s = some ((argument s field.title digits field.read).map make) by
    obtain ⟨make, hmake, hread⟩ := hread
    exact ⟨make, hmake, unambiguous.reads s field.kind _ hread⟩
  cases h with
  | argument hfield hword hdigits =>
    rw [read?_append hword]
    cases field with
    | skip => exact ⟨.skip, fun _ => rfl, if_pos hdigits⟩
    | restarts => exact ⟨fun n => .next (some n), fun _ => rfl, if_pos hdigits⟩
    | status => exact ⟨fun n => .redirect (.code n), fun _ => rfl, if_pos hdigits⟩
    | lifetime => exact absurd rfl hfield
  | @lifetime word name value domain digits more hword hname hparts hdigits hmore =>
    have hcolon : ':' ∉ digits := not_mem_of_isNumber hdigits (by decide)
    have hcut :
        Text.splitAll ':' (Text.joinWith [':'] (name :: value :: domain :: digits :: more)) =
        name :: value :: domain :: digits :: more := Text.splitAll_joinWith (by simp) (by grind)
    refine ⟨fun n => .cookie ⟨name, value, some domain, some n, more[0]?, more[1]?, more[2]?⟩,
      fun _ => rfl, ?_⟩
    rw [NumberField.kind, read?_append hword, Kind.withArgument?, hcut,
      cookieFields?_lifetime hname domain hdigits hmore, Option.map_some, NumberField.title,
      NumberField.read]
    cases argument _ "lifetime" digits readLifetime <;> rfl

end RuleFlag

end UrlRewrite
