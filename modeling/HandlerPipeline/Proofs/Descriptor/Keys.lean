import HandlerPipeline.Proofs.BuildPass.AllOrNothing
import HandlerPipeline.Proofs.BuildPass.Naming
import HandlerPipeline.Proofs.Descriptor.Valid

/-!
# The keys of a descriptor

A descriptor maps names to entries, and an entry is declared under its key: the key is added to the
entry as its name. An entry that gives a name of its own overrules that (`text_name_of_ofKeyed?`),
so the declaration bears the key exactly where the entry gives no other name (`name_eq_key_iff`).
Where no entry does, the keys tell the functions apart, and with them the files, the entry points,
and what a build may be restricted to (`descriptor_keys`). Two entries that give one name are one
function to everything that follows (`descriptor_keys_shared`).
-/

namespace HandlerPipeline

namespace Value

variable {key : String} {added entries : List (Value × Value)}

/-- What is looked up in two lists of entries is looked up in the first one first. -/
theorem lookup_append {first second : List (Value × Value)} :
    lookup key (first ++ second) = (lookup key first).or (lookup key second) := by
  induction first with
  | nil => rfl
  | cons e rest ih =>
    obtain ⟨k, v⟩ := e
    cases k with
    | text k =>
      rw [List.cons_append, lookup, lookup]
      split
      · rfl
      · exact ih
    | _ => exact ih

/-- A text is the same key as itself only. -/
theorem sameKey_text_iff {v : Value} {text : String} :
    sameKey v (.text text) = true ↔ v = .text text := by
  cases v <;> simp [sameKey, number?]

/-- A text is the same key as itself only, on whichever side it stands. -/
theorem text_sameKey_iff {v : Value} {text : String} :
    sameKey (.text text) v = true ↔ .text text = v := by
  cases v <;> simp [sameKey, number?]

/-- Of one entry, the value is found under a text that is the same key. -/
theorem lookup_singleton {k v : Value} :
    lookup key [(k, v)] = if sameKey k (.text key) then some v else none := by
  cases k <;> simp [lookup, sameKey, number?]

/-- Values that are the same key are the same key as a text together. -/
theorem sameKey_text_congr {k k' : Value} {text : String} (h : sameKey k k' = true) :
    sameKey k (.text text) = sameKey k' (.text text) := by
  rw [Bool.eq_iff_iff, sameKey_text_iff, sameKey_text_iff]
  constructor
  · rintro rfl
    exact (text_sameKey_iff.1 h).symm
  · rintro rfl
    exact sameKey_text_iff.1 h

/-- An added entry is found under its key, and what is found under other keys stays the same. -/
theorem lookup_insertEntry {k v : Value} :
    lookup key (insertEntry k v entries) = (lookup key [(k, v)]).or (lookup key entries) := by
  induction entries with
  | nil => rw [insertEntry, lookup, Option.or_none]
  | cons e rest ih =>
    obtain ⟨k', v'⟩ := e
    have hcons : ∀ w rest', lookup key ((k', w) :: rest') =
        (lookup key [(k', w)]).or (lookup key rest') :=
      fun w rest' => @lookup_append key [(k', w)] rest'
    rw [insertEntry, hcons]
    by_cases hsame : sameKey k' k = true
    · rw [if_pos hsame, hcons, lookup_singleton, lookup_singleton, lookup_singleton,
        sameKey_text_congr hsame]
      cases sameKey k (.text key) <;> rfl
    · rw [if_neg hsame, hcons, ih, lookup_singleton, lookup_singleton]
      -- Not both keys are the text, or else they would be the same.
      cases hk : sameKey k (.text key) with
      | false => rfl
      | true =>
        rw [sameKey_text_iff] at hk
        subst hk
        rw [Bool.not_eq_true] at hsame
        rw [hsame]
        rfl

/-- What is found under a key after entries were added is what the last of them gives, or else what
was found before. -/
theorem lookup_insertEntries :
    lookup key (insertEntries added entries) =
      (lookup key added.reverse).or (lookup key entries) := by
  induction added generalizing entries with
  | nil => rfl
  | cons e rest ih =>
    have hfold : insertEntries (e :: rest) entries =
        insertEntries rest (insertEntry e.1 e.2 entries) := rfl
    rw [hfold, ih, lookup_insertEntry, List.reverse_cons, lookup_append, Option.or_assoc]

end Value

namespace Declaration

/-! ## One entry -/

/-- The name that an entry gives itself; of several, the last one counts. -/
def ownName? (entry : Value) : Option Value :=
  entry.entries?.bind fun entries => Value.lookup "name" entries.reverse

/-- The entry gives no name other than its key. -/
def IsKeyed (key : String) (entry : Value) : Prop :=
  ∀ name, ownName? entry = some name → name = .text key

/-- The declaration of an entry under its key, where the entry is valid. -/
def ofKeyed? (key : String) (entry : Value) : Option Declaration :=
  match ofEntry? (.text key) entry with
  | none => none
  | some raw =>
    match read raw with
    | .valid d => some d
    | .invalid _ => none

/-- The declarations of the valid entries of a descriptor, in its order. -/
def ofDescriptor (descriptor : List (String × Value)) : List Declaration :=
  descriptor.filterMap fun e => ofKeyed? e.1 e.2

variable {key : String} {entry : Value} {d : Declaration} {descriptor : List (String × Value)}

/-- A declaration bears the name that its entry gives, or else the key. -/
theorem text_name_of_ofKeyed? (h : ofKeyed? key entry = some d) :
    .text d.name = (ownName? entry).getD (.text key) := by
  unfold ofKeyed? at h
  split at h
  · cases h
  · next raw hraw =>
    split at h
    · next d' hvalid =>
      cases h
      obtain ⟨entries, hentries, rfl⟩ := Option.map_eq_some_iff.1 hraw
      obtain ⟨given, hgiven, hname⟩ := name_of_read hvalid
      cases hgiven
      have hkey : Value.lookup "name" [(.text "name", .text key)] = some (.text key) := rfl
      rw [Value.lookup_insertEntries, hkey, Option.or_some, Option.some.injEq] at hname
      rw [ownName?, hentries, Option.bind_some, hname]
    · cases h

/-- **A declaration bears the key exactly where its entry gives no other name.** -/
theorem name_eq_key_iff (h : ofKeyed? key entry = some d) : d.name = key ↔ IsKeyed key entry := by
  have hname := text_name_of_ofKeyed? h
  unfold IsKeyed
  cases hown : ownName? entry with
  | none =>
    rw [hown] at hname
    cases hname
    simp
  | some v =>
    rw [hown] at hname
    cases hname
    simp

/-! ## All entries -/

/-- No valid entry of the descriptor gives a name other than its key. -/
def AllKeyed (descriptor : List (String × Value)) : Prop :=
  ∀ e ∈ descriptor, ∀ d, ofKeyed? e.1 e.2 = some d → IsKeyed e.1 e.2

/-- Where no entry gives another name, the functions are named by the keys, in their order. -/
theorem names_sublist_keys (hkeyed : AllKeyed descriptor) :
    ((ofDescriptor descriptor).map (·.name)).Sublist (descriptor.map Prod.fst) := by
  induction descriptor with
  | nil => exact List.Sublist.refl _
  | cons e rest ih =>
    have hrest := ih fun e' he' => hkeyed e' (.tail _ he')
    unfold ofDescriptor at hrest ⊢
    rw [List.filterMap_cons, List.map_cons]
    split
    · exact hrest.cons _
    · next d hd =>
      rw [List.map_cons, (name_eq_key_iff hd).2 (hkeyed e (.head _) d hd)]
      exact hrest.cons_cons _

/-- Where no entry gives another name, a function is declared by the entry under its name. -/
theorem exists_entry_of_mem (hkeyed : AllKeyed descriptor) (h : d ∈ ofDescriptor descriptor) :
    ∃ entry, (d.name, entry) ∈ descriptor ∧ ofKeyed? d.name entry = some d := by
  obtain ⟨⟨key, entry⟩, he, hd⟩ := List.mem_filterMap.1 h
  have hname : d.name = key := (name_eq_key_iff hd).2 (hkeyed _ he d hd)
  subst hname
  exact ⟨entry, he, hd⟩

end Declaration

namespace BuildPass

variable {pass : BuildPass} {declarations selected : List Declaration} {only : Option String}
  {memory : Resolved} {artifacts : List Artifact}

/-- Functions with different names that are selected have different files and entry points,
whatever the schedule is and however the probe answers. -/
theorem Pool.nodup_of_outcomes? {turns : List Turn} {last : Pool}
    {outcomes : List (Declaration × Outcome)} (hnames : (declarations.map (·.name)).Nodup)
    (hselect : pass.select declarations only = .ok selected)
    (hrun : (start memory selected).run pass turns = some last)
    (houtcomes : last.outcomes? = some outcomes) (h : collect outcomes = .ok artifacts) :
    (artifacts.map (·.filename)).Nodup ∧ (artifacts.map (·.entryPoint)).Nodup := by
  have hselected : outcomes.map (·.1.name) = selected.map (·.name) := by
    rw [← declarations_outcomes? hrun houtcomes, List.map_map]
    rfl
  refine nodup_of_collect (mayEnd_of_outcomes? hrun houtcomes) ?_ h
  rw [hselected, eq_filter_of_select hselect]
  exact hnames.sublist (List.filter_sublist.map _)

/-- What is said of the keys of a descriptor. -/
structure KeyLaw (pass : BuildPass) (descriptor : List (String × Value)) : Prop where
  /-- A function bears the name that its entry gives, and its key where the entry gives none. -/
  named : ∀ key entry d, Declaration.ofKeyed? key entry = some d →
    .text d.name = (Declaration.ownName? entry).getD (.text key)
  /-- So it bears its key exactly where the entry gives no other name. -/
  keyed : ∀ key entry d, Declaration.ofKeyed? key entry = some d →
    (d.name = key ↔ Declaration.IsKeyed key entry)
  /-- Where no entry gives another name, no two functions have one name. -/
  distinct : Declaration.AllKeyed descriptor →
    ((Declaration.ofDescriptor descriptor).map (·.name)).Nodup
  /-- Then no two artifacts of a build have one file or one entry point. -/
  artifacts : Declaration.AllKeyed descriptor → ∀ memory only writer? artifacts,
    (pass.build memory (Declaration.ofDescriptor descriptor) only writer?).outcome = .ok artifacts →
    (artifacts.map (·.filename)).Nodup ∧ (artifacts.map (·.entryPoint)).Nodup
  /-- So it is when functions are built at the same time, however they take turns and whatever the
  probe answers at each turn. -/
  scheduled : Declaration.AllKeyed descriptor →
    ∀ memory only selected turns last outcomes artifacts,
    pass.select (Declaration.ofDescriptor descriptor) only = .ok selected →
    (Pool.start memory selected).run pass turns = some last → last.outcomes? = some outcomes →
    collect outcomes = .ok artifacts →
    (artifacts.map (·.filename)).Nodup ∧ (artifacts.map (·.entryPoint)).Nodup
  /-- And a key selects at most the function of its own entry. -/
  selects : Declaration.AllKeyed descriptor → ∀ key selected,
    pass.select (Declaration.ofDescriptor descriptor) (some key) = .ok selected →
    selected.length ≤ 1 ∧ ∀ d ∈ selected, ∃ entry, (key, entry) ∈ descriptor ∧
      Declaration.ofKeyed? key entry = some d

/-- **The keys of a descriptor tell its functions apart, unless an entry gives a name of its own**:
then different keys are different functions, with different files and different entry points. -/
theorem descriptor_keys (pass : BuildPass) (descriptor : List (String × Value))
    (hkeys : (descriptor.map Prod.fst).Nodup) : KeyLaw pass descriptor := by
  have hdistinct : Declaration.AllKeyed descriptor →
      ((Declaration.ofDescriptor descriptor).map (·.name)).Nodup :=
    fun hkeyed => hkeys.sublist (Declaration.names_sublist_keys hkeyed)
  refine ⟨fun key entry d => Declaration.text_name_of_ofKeyed?,
    fun key entry d => Declaration.name_eq_key_iff, hdistinct,
    fun hkeyed memory only writer? artifacts h => ?_,
    fun hkeyed memory only selected turns last outcomes artifacts =>
      Pool.nodup_of_outcomes? (hdistinct hkeyed),
    fun hkeyed key selected h => ?_⟩
  · rw [build] at h
    split at h
    · cases h
    · next selected hselect =>
      -- Building in order is one way to take turns.
      obtain ⟨last, ⟨turns, -, hrun⟩, houtcomes, -⟩ := Pool.leads_buildEach pass memory selected
      exact Pool.nodup_of_outcomes? (hdistinct hkeyed) hselect hrun houtcomes
        (collect_of_conclude_eq_ok h)
  · have hselected := eq_filter_of_select h
    have hname : ∀ d ∈ selected, d ∈ Declaration.ofDescriptor descriptor ∧ d.name = key := by
      intro d hd
      rw [hselected] at hd
      obtain ⟨hd, hsel⟩ := List.mem_filter.1 hd
      exact ⟨hd, of_decide_eq_true (Bool.and_eq_true_iff.1 hsel).1⟩
    constructor
    · have hnodup : (selected.map (·.name)).Nodup := by
        rw [hselected]
        exact (hdistinct hkeyed).sublist (List.filter_sublist.map _)
      have hreplicate : selected.map (·.name) = List.replicate selected.length key :=
        List.eq_replicate_iff.2
          ⟨List.length_map _, List.forall_mem_map.2 fun d hd => (hname d hd).2⟩
      rwa [hreplicate, List.nodup_replicate] at hnodup
    · intro d hd
      obtain ⟨hmem, rfl⟩ := hname d hd
      exact Declaration.exists_entry_of_mem hkeyed hmem

/-- Two functions, one of which gives its key as its name and says something else besides: they are
written to two files, and a key selects one of them. -/
theorem descriptor_keys_pair :
    let pass : BuildPass := ⟨.default, .default, .ofTable [("m", some .plain)]⟩
    let steps : Value × Value := (.text "middleware", .list [.text "m.f"])
    let pair : List (String × Value) := [("a", .map [steps]),
      ("b", .map [(.text "name", .text "b"), steps, (.text "timeout", .int 3)])]
    (pair.map Prod.fst).Nodup ∧ Declaration.AllKeyed pair ∧
      (∃ artifacts, (pass.build [] (Declaration.ofDescriptor pair) none none).outcome =
        .ok artifacts ∧ artifacts.length = 2 ∧ (artifacts.map (·.filename)).Nodup) ∧
      ∃ d, pass.select (Declaration.ofDescriptor pair) (some "b") = .ok [d] ∧ d.name = "b" := by
  intro pass steps pair
  have hkeys : (pair.map Prod.fst).Nodup := by decide
  have hlaw := descriptor_keys pass pair hkeys
  have hkeyed : Declaration.AllKeyed pair := by
    intro e he d _ name hname
    rcases List.mem_pair.1 he with rfl | rfl <;> cases hname
    rfl
  have hbuilt : (pass.build [] (Declaration.ofDescriptor pair) none none).outcome.toOption.map
      List.length = some 2 := by decide +kernel
  obtain ⟨artifacts, houtcome, hlength⟩ := exists_ok_of_toOption_map hbuilt
  exact ⟨hkeys, hkeyed,
    ⟨artifacts, houtcome, hlength, (hlaw.artifacts hkeyed [] none none artifacts houtcome).1⟩,
    _, rfl, rfl⟩

/-- Two entries that give one name are declared under it, whatever their keys are: the build hands
out two artifacts for one file, and the name selects both. -/
theorem descriptor_keys_shared :
    let pass : BuildPass := ⟨.default, .default, .ofTable [("m", some .plain)]⟩
    let entry : Value := .map [(.text "name", .text "c"), (.text "middleware", .list [.text "m.f"])]
    let shared : List (String × Value) := [("a", entry), ("b", entry)]
    (shared.map Prod.fst).Nodup ∧
      (∃ d, Declaration.ofKeyed? "a" entry = some d ∧ d.name ≠ "a") ∧
      (∃ artifacts, (pass.build [] (Declaration.ofDescriptor shared) none none).outcome =
        .ok artifacts ∧ ¬ (artifacts.map (·.filename)).Nodup) ∧
      ∃ selected, pass.select (Declaration.ofDescriptor shared) (some "c") = .ok selected ∧
        selected.length = 2 := by
  intro pass entry shared
  have hbuilt : (pass.build [] (Declaration.ofDescriptor shared) none none).outcome.toOption.map
      (List.map (·.filename)) = some ["c.py", "c.py"] := by decide +kernel
  obtain ⟨artifacts, houtcome, hfiles⟩ := exists_ok_of_toOption_map hbuilt
  exact ⟨by decide, ⟨_, rfl, by decide⟩, ⟨artifacts, houtcome, by rw [hfiles]; decide⟩, _, rfl, rfl⟩

end BuildPass

end HandlerPipeline
