import HandlerPipeline.Proofs.Reference.Accepted
import HandlerPipeline.Proofs.Value.Data

/-!
# Steps in normal form

A raw step is a text that is a reference, or a map that gives one side at least and only references
as sides. Nothing else is a step, and nothing else about a map makes a difference. A step that was
read is written as a map of its references (`Step.written`), which is one of the raw steps that it is
read from. `Step.read_normal` puts these together for any value.
-/

namespace HandlerPipeline.Step

variable {key text : String} {raw v : Value} {side? : Option Value} {r : Reference} {s : Step}

/-! ## Answers of raw steps -/

/-- The keys of the two sides. -/
def sideKeys : List String := ["then", "catch"]

theorem mem_sideKeys_iff : key ∈ sideKeys ↔ key = "then" ∨ key = "catch" := by
  simp [sideKeys]

/-- A raw step that is asked for a key answers with what counts as given there, if anything does.
Neither the step nor the value raises. -/
def Answers (raw : Value) (key : String) (side? : Option Value) : Prop :=
  ∃ found?, raw.get key = .ok found? ∧ givenSide found? = .ok side?

/-- A raw step gives a value under a key: it holds the value there, and the value counts as given. -/
structure GivesSide (raw : Value) (key : String) (v : Value) : Prop where
  get_eq : raw.get key = .ok (some v)
  isGiven : v.isGiven = .ok true

/-- The value is a text that is a reference. -/
def IsReferenceText (v : Value) : Prop :=
  ∃ text r, v = .text text ∧ Reference.read text = .ok r

/-- A value that counts as given is the side that it stands for. -/
theorem givenSide_eq_ok_some_iff {found? : Option Value} :
    givenSide found? = .ok (some v) ↔ found? = some v ∧ v.isGiven = .ok true := by
  cases found? with
  | none => simp [givenSide]
  | some w =>
    rw [givenSide, map_eq_ok_iff]
    constructor
    · rintro ⟨given, hgiven, hif⟩
      cases given with
      | false => cases hif
      | true =>
        cases hif
        exact ⟨rfl, hgiven⟩
    · rintro ⟨heq, hgiven⟩
      cases heq
      exact ⟨true, hgiven, rfl⟩

/-- A raw step answers with a value iff it gives that value. -/
theorem answers_some_iff : Answers raw key (some v) ↔ GivesSide raw key v := by
  simp only [Answers, givenSide_eq_ok_some_iff]
  constructor
  · rintro ⟨_, hget, rfl, hgiven⟩
    exact ⟨hget, hgiven⟩
  · intro h
    exact ⟨_, h.get_eq, rfl, h.isGiven⟩

/-- A raw step answers a key in one way. -/
theorem Answers.unique {side?' : Option Value} (h : Answers raw key side?)
    (h' : Answers raw key side?') : side? = side?' := by
  obtain ⟨_, hget, hgiven⟩ := h
  obtain ⟨_, hget', hgiven'⟩ := h'
  cases hget.symm.trans hget'
  cases hgiven.symm.trans hgiven'
  rfl

/-- A raw step that is no text has the sides that it answers with. -/
theorem sides_eq_ok_iff (htext : ∀ text, raw ≠ .text text) {success? failure? : Option Value} :
    sides raw = .ok (success?, failure?) ↔
      Answers raw "then" success? ∧ Answers raw "catch" failure? := by
  unfold sides
  split
  · exact absurd rfl (htext _)
  · simp only [bind_eq_ok_iff, Answers, pure, Except.pure, Except.ok.injEq, Prod.mk.injEq]
    constructor
    · rintro ⟨success, hsuccess, failure, hfailure, _, hgiven, _, hgiven', rfl, rfl⟩
      exact ⟨⟨success, hsuccess, hgiven⟩, failure, hfailure, hgiven'⟩
    · rintro ⟨⟨success, hsuccess, hgiven⟩, failure, hfailure, hgiven'⟩
      exact ⟨success, hsuccess, failure, hfailure, _, hgiven, _, hgiven', rfl, rfl⟩

/-- What is no map answers every key with nothing. -/
theorem get_of_other (h : raw.entries? = none) : raw.get key = .ok none := by
  cases raw with
  | object type conduct entries? =>
    cases entries? with
    | none => rfl
    | some entries => cases h
  | map entries => cases h
  | view entries => cases h
  | _ => rfl

/-- What is neither a text nor a map has no sides. -/
theorem sides_of_other (htext : ∀ text, raw ≠ .text text) (h : raw.entries? = none) :
    sides raw = .ok (none, none) :=
  (sides_eq_ok_iff htext).2 ⟨⟨none, get_of_other h, rfl⟩, none, get_of_other h, rfl⟩

/-! ## Accepted sides -/

/-- A given side that is read is a text that is a reference. -/
theorem SideReads.isReferenceText {r? : Option Reference} (h : SideReads (some v) r?) :
    IsReferenceText v := by
  cases h with
  | given h => exact ⟨_, _, rfl, h⟩

/-- A side that is read to a reference is given. -/
theorem SideReads.exists_given {side? : Option Value} (h : SideReads side? (some r)) :
    ∃ v, side? = some v := by
  cases h with
  | given => exact ⟨_, rfl⟩

/-- A text that is a reference has no fault. -/
theorem IsReferenceText.not_isFault {reason : String} (h : IsReferenceText v) :
    ¬ IsFault v reason := by
  obtain ⟨text, r, rfl, hread⟩ := h
  intro hfault
  cases hfault with
  | notText htext => exact htext text rfl
  | unread herror => cases herror.symm.trans hread

/-- A step has a reference for one side at least. -/
theorem exists_reference (s : Step) : (∃ r, s.success? = some r) ∨ ∃ r, s.failure? = some r := by
  cases s with
  | onSuccess r => exact .inl ⟨r, rfl⟩
  | onFailure r => exact .inr ⟨r, rfl⟩
  | onBoth r _ => exact .inl ⟨r, rfl⟩

/-- A value that is no map is read where it is a text that is a reference. -/
theorem exists_read_iff_of_other (h : raw.entries? = none) :
    (∃ s, read raw = .ok s) ↔ IsReferenceText raw := by
  constructor
  · rintro ⟨s, hread⟩
    obtain ⟨success?, failure?, hsides, hsuccess, hfailure⟩ := read_eq_ok_iff.1 hread
    by_cases htext : ∃ text, raw = .text text
    · obtain ⟨text, rfl⟩ := htext
      cases hsides
      exact hsuccess.isReferenceText
    · rw [sides_of_other (fun text heq => htext ⟨text, heq⟩) h] at hsides
      cases hsides
      rcases s.exists_reference with ⟨r, hr⟩ | ⟨r, hr⟩
      · rw [hr] at hsuccess
        cases hsuccess
      · rw [hr] at hfailure
        cases hfailure
  · rintro ⟨text, r, rfl, hread⟩
    exact ⟨.onSuccess r, read_eq_ok_iff.2 ⟨_, _, rfl, .given hread, .absent⟩⟩

/-- A raw step is a map that can be read: it answers for both sides, gives one of them, and gives
only references. -/
structure IsReadableMap (raw : Value) : Prop where
  exists_entries : ∃ entries, raw.entries? = some entries
  answers : ∀ key ∈ sideKeys, ∃ side?, Answers raw key side?
  exists_side : ∃ key ∈ sideKeys, ∃ v, GivesSide raw key v
  isReferenceText : ∀ key ∈ sideKeys, ∀ v, GivesSide raw key v → IsReferenceText v

/-- A map is no text. -/
theorem ne_text_of_entries {entries : List (Value × Value)} (h : raw.entries? = some entries) :
    ∀ text, raw ≠ .text text := by
  rintro text rfl
  cases h

/-- A side of a map that was read is a reference. -/
theorem SideReads.isReferenceText_of_gives {r? : Option Reference} (h : SideReads side? r?)
    (hanswers : Answers raw key side?) (hgives : GivesSide raw key v) : IsReferenceText v := by
  cases hanswers.unique (answers_some_iff.2 hgives)
  exact h.isReferenceText

/-- A map is read where it is readable. -/
theorem exists_read_iff_of_entries {entries : List (Value × Value)}
    (h : raw.entries? = some entries) : (∃ s, read raw = .ok s) ↔ IsReadableMap raw := by
  have htext := ne_text_of_entries h
  constructor
  · rintro ⟨s, hread⟩
    obtain ⟨success?, failure?, hsides, hsuccess, hfailure⟩ := read_eq_ok_iff.1 hread
    obtain ⟨hthen, hcatch⟩ := (sides_eq_ok_iff htext).1 hsides
    refine ⟨⟨entries, h⟩, fun key hkey => ?_, ?_, fun key hkey v hv => ?_⟩
    · obtain rfl | rfl := mem_sideKeys_iff.1 hkey
      · exact ⟨_, hthen⟩
      · exact ⟨_, hcatch⟩
    · rcases s.exists_reference with ⟨r, hr⟩ | ⟨r, hr⟩
      · rw [hr] at hsuccess
        obtain ⟨v, rfl⟩ := hsuccess.exists_given
        exact ⟨"then", .head _, v, answers_some_iff.1 hthen⟩
      · rw [hr] at hfailure
        obtain ⟨v, rfl⟩ := hfailure.exists_given
        exact ⟨"catch", .tail _ (.head _), v, answers_some_iff.1 hcatch⟩
    · obtain rfl | rfl := mem_sideKeys_iff.1 hkey
      · exact hsuccess.isReferenceText_of_gives hthen hv
      · exact hfailure.isReferenceText_of_gives hcatch hv
  · intro hmap
    obtain ⟨success?, hthen⟩ := hmap.answers "then" (.head _)
    obtain ⟨failure?, hcatch⟩ := hmap.answers "catch" (.tail _ (.head _))
    have hsides := (sides_eq_ok_iff htext).2 ⟨hthen, hcatch⟩
    cases hread : read raw with
    | ok s => exact ⟨s, rfl⟩
    | error e =>
      -- There is a reason: a side with a fault, or no side at all.
      have hfree : ∀ {key v reason}, key ∈ sideKeys → Answers raw key (some v) →
          ¬ IsFault v reason := fun hkey hanswers =>
        (hmap.isReferenceText _ hkey _ (answers_some_iff.1 hanswers)).not_isFault
      rcases read_eq_error_iff.1 hread with ⟨x, herror, -⟩ | ⟨_, _, reason, heq, hreason, -⟩
      · cases hsides.symm.trans herror
      · cases hsides.symm.trans heq
        cases hreason with
        | absent =>
          obtain ⟨key, hkey, v, hv⟩ := hmap.exists_side
          obtain rfl | rfl := mem_sideKeys_iff.1 hkey
          · cases hthen.unique (answers_some_iff.2 hv)
          · cases hcatch.unique (answers_some_iff.2 hv)
        | success hfault => exact absurd hfault (hfree (.head _) hthen)
        | failure _ hfault => exact absurd hfault (hfree (.tail _ (.head _)) hcatch)

/-! ## Steps that are written -/

/-- The map of the references of a step, under the keys of their sides. -/
def written (s : Step) : Value :=
  .ofObject ((s.success?.map fun r => ("then", .text r.text)).toList ++
    (s.failure?.map fun r => ("catch", .text r.text)).toList)

/-- The text of a reference counts as given. -/
theorem isGiven_text (r : Reference) : (Value.text r.text).isGiven = .ok true := by
  have hne : r.text ≠ "" := by
    intro hempty
    have hchars := r.toList_text
    rw [hempty] at hchars
    simp at hchars
  simpa [Value.isGiven] using hne

/-- The sides of what a step is written as are the texts of its references. -/
theorem sides_written (s : Step) : sides s.written =
    .ok (s.success?.map fun r => .text r.text, s.failure?.map fun r => .text r.text) := by
  cases s <;> simp [sides, written, Value.ofObject, Value.get, Value.entries?, Value.lookup,
    givenSide, success?, failure?, isGiven_text, Except.map, bind, Except.bind, pure, Except.pure]

/-- The text of an accepted reference is read to it. -/
theorem sideReads_text {r? : Option Reference} (h : ∀ r ∈ r?, r.IsAccepted) :
    SideReads (r?.map fun r => .text r.text) r? := by
  cases r? with
  | none => exact .absent
  | some r => exact .given (h r rfl)

/-! ## Plain data -/

/-- The sides of plain data can be looked at. -/
theorem exists_sides_of_isData (h : raw.isData = true) :
    ∃ success? failure?, sides raw = .ok (success?, failure?) := by
  have hanswers : ∀ key, ∃ side?, Answers raw key side? := by
    intro key
    obtain ⟨found?, hget, hdata⟩ := @Value.exists_get_of_isData raw key h
    cases found? with
    | none => exact ⟨none, none, hget, rfl⟩
    | some v =>
      obtain ⟨given, hgiven⟩ := Value.exists_isGiven_of_isData (hdata v rfl)
      exact ⟨_, some v, hget, by rw [givenSide, hgiven]; rfl⟩
  by_cases htext : ∃ text, raw = .text text
  · obtain ⟨text, rfl⟩ := htext
    exact ⟨_, _, rfl⟩
  · obtain ⟨success?, hthen⟩ := hanswers "then"
    obtain ⟨failure?, hcatch⟩ := hanswers "catch"
    exact ⟨_, _, (sides_eq_ok_iff fun text heq => htext ⟨text, heq⟩).2 ⟨hthen, hcatch⟩⟩

/-! ## Steps in normal form -/

/-- What is said of reading a raw step, whatever value it is. -/
structure NormalLaw (raw : Value) : Prop where
  /-- It is read exactly where it is a text that is a reference, or a map that answers for both
  sides, gives one and gives only such texts. -/
  accepts : (∃ s, read raw = .ok s) ↔ IsReferenceText raw ∨ IsReadableMap raw
  /-- The step then has the references of the sides that are given, and no others. -/
  gives : ∀ s, read raw = .ok s ↔ ∃ success? failure?, sides raw = .ok (success?, failure?) ∧
    SideReads success? s.success? ∧ SideReads failure? s.failure?
  /-- An error of the library echoes the raw step. Its reason is the fault of the side for success,
  and that of the side for failure only where the other has none. -/
  refuses : ∀ error, read raw = .error (.build error) ↔
    ∃ success? failure? reason echo, sides raw = .ok (success?, failure?) ∧
      HasReason success? failure? reason ∧ raw.echo = .ok echo ∧
      error = .invalidStep raw echo reason
  /-- Anything else is raised by the raw step: where its sides are looked at, or where it is echoed
  because they are no step. -/
  raises : ∀ x, read raw = .error (.raised x) ↔ sides raw = .error x ∨
    (∃ success? failure? reason, sides raw = .ok (success?, failure?) ∧
      HasReason success? failure? reason) ∧ raw.echo = .error x
  /-- Plain data raises nothing. -/
  plain : raw.isData = true → ∀ x, read raw ≠ .error (.raised x)
  /-- Other keys of a map make no difference, and neither does the kind of the map. -/
  others : ∀ raw' entries entries', raw.entries? = some entries → raw'.entries? = some entries' →
    (∀ key ∈ sideKeys, raw'.get key = raw.get key) → ∀ s, read raw' = .ok s ↔ read raw = .ok s
  /-- A step that was read is read again from what it is written as. -/
  read_written : ∀ s, read raw = .ok s → read s.written = .ok s

/-- What is raised by reading a raw step. -/
theorem read_eq_raised_iff {x : Raised} : read raw = .error (.raised x) ↔ sides raw = .error x ∨
    (∃ success? failure? reason, sides raw = .ok (success?, failure?) ∧
      HasReason success? failure? reason) ∧ raw.echo = .error x := by
  rw [read_eq_error_iff]
  constructor
  · rintro (⟨y, hsides, hx⟩ | ⟨_, _, reason, hsides, hreason, hx⟩)
    · cases hx
      exact .inl hsides
    · exact .inr ⟨⟨_, _, reason, hsides, hreason⟩, invalidStep_eq_raised_iff.1 hx.symm⟩
  · rintro (hsides | ⟨⟨_, _, reason, hsides, hreason⟩, hecho⟩)
    · exact .inl ⟨x, hsides, rfl⟩
    · exact .inr ⟨_, _, reason, hsides, hreason, (invalidStep_eq_raised_iff.2 hecho).symm⟩

/-- Plain data raises nothing: its sides can be looked at, and it can be echoed. -/
theorem read_ne_raised_of_isData {x : Raised} (h : raw.isData = true) :
    read raw ≠ .error (.raised x) := by
  rw [ne_eq, read_eq_raised_iff]
  obtain ⟨_, _, hsides⟩ := exists_sides_of_isData h
  obtain ⟨echo, hecho⟩ := Value.exists_echo_of_isData h
  rintro (heq | ⟨-, heq⟩)
  · cases hsides.symm.trans heq
  · cases hecho.symm.trans heq

/-- The errors of the library about a raw step. -/
theorem read_eq_build_iff {error : BuildError} : read raw = .error (.build error) ↔
    ∃ success? failure? reason echo, sides raw = .ok (success?, failure?) ∧
      HasReason success? failure? reason ∧ raw.echo = .ok echo ∧
      error = .invalidStep raw echo reason := by
  rw [read_eq_error_iff]
  constructor
  · rintro (⟨_, -, he⟩ | ⟨_, _, reason, hsides, hreason, he⟩)
    · cases he
    · obtain ⟨echo, hecho, rfl⟩ := invalidStep_eq_build_iff.1 he.symm
      exact ⟨_, _, reason, echo, hsides, hreason, hecho, rfl⟩
  · rintro ⟨_, _, reason, echo, hsides, hreason, hecho, rfl⟩
    exact .inr ⟨_, _, reason, hsides, hreason,
      (invalidStep_eq_build_iff.2 ⟨echo, hecho, rfl⟩).symm⟩

/-- Maps that answer alike for the sides are read alike. -/
theorem read_eq_ok_iff_of_get_eq {raw' : Value} (htext : ∀ text, raw ≠ .text text)
    (htext' : ∀ text, raw' ≠ .text text) (hget : ∀ key ∈ sideKeys, raw'.get key = raw.get key) :
    read raw' = .ok s ↔ read raw = .ok s := by
  have hanswers : ∀ key ∈ sideKeys, ∀ side?, Answers raw' key side? ↔ Answers raw key side? :=
    fun key hkey side? => by rw [Answers, Answers, hget key hkey]
  simp only [read_eq_ok_iff, sides_eq_ok_iff htext, sides_eq_ok_iff htext',
    hanswers "then" (.head _), hanswers "catch" (.tail _ (.head _))]

/-- **Steps are read in normal form**, from any value: exactly from references and from maps of
references, to the references of the sides that are given. Everything else is refused and echoed,
unless the value raises something itself, and a step that was read is read again from what it is
written as. -/
theorem read_normal (raw : Value) : NormalLaw raw := by
  refine ⟨?_, fun s => read_eq_ok_iff, fun error => read_eq_build_iff,
    fun x => read_eq_raised_iff, fun h x => read_ne_raised_of_isData h,
    fun raw' _ _ h h' hget s =>
      read_eq_ok_iff_of_get_eq (ne_text_of_entries h) (ne_text_of_entries h') hget, fun s h => ?_⟩
  · cases hentries : raw.entries? with
    | none =>
      have hmap : ¬ IsReadableMap raw := by
        intro hmap
        obtain ⟨entries, heq⟩ := hmap.exists_entries
        cases hentries.symm.trans heq
      rw [exists_read_iff_of_other hentries, or_iff_left hmap]
    | some entries =>
      have htext : ¬ IsReferenceText raw := by
        rintro ⟨text, r, rfl, -⟩
        cases hentries
      rw [exists_read_iff_of_entries hentries, or_iff_right htext]
  · have haccepted := isAccepted_of_read h
    refine read_eq_ok_iff.2 ⟨_, _, sides_written s, ?_, ?_⟩
    · exact sideReads_text fun r hr =>
        haccepted r (List.mem_append_left _ (Option.mem_toList.2 hr))
    · exact sideReads_text fun r hr =>
        haccepted r (List.mem_append_right _ (Option.mem_toList.2 hr))

/-- An integer of too many digits is no step, and no error of the library says so: it raises when it
is echoed. -/
theorem read_of_isLong {n : Int} (h : Integer.isLong n = true) :
    read (.int n) = .error (.raised .longInteger) :=
  read_eq_raised_iff.2 (.inr ⟨⟨none, none, "", sides_of_other (fun _ heq => by cases heq) rfl,
    .absent⟩, Value.echo_of_isLong h⟩)

/-- So it is with the 5000th power of ten. -/
theorem read_longInteger : read (.int (Nat.pow 10 5000)) = .error (.raised .longInteger) := by
  apply read_of_isLong
  apply Value.isLong_pow
  decide

/-- A side that is zero is not given, and other keys are ignored. -/
example : read (.map [(.text "x", .null), (.text "then", .int 0), (.text "catch", .text "m.g")]) =
    .ok (.onFailure ⟨"m", "g"⟩) := rfl

end HandlerPipeline.Step
