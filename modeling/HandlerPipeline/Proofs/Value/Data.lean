import HandlerPipeline.Proofs.Results
import HandlerPipeline.Value.Json

/-!
# Plain data

A value without objects of other types and without integers of too many digits can be looked at:
nothing that it is asked raises (`isData`). So it has a literal (`exists_literal_of_isData`), and a
message can echo it (`exists_echo_of_isData`), by its JSON text or else by that literal. An integer
of too many digits cannot be echoed (`echo_of_isLong`).
-/

namespace HandlerPipeline.Value

mutual
/-- The value holds no objects of other types, and no integers of too many digits. -/
def isData : Value → Bool
  | .null | .bool _ | .float _ | .text _ | .bytes _ => true
  | .int n => !Integer.isLong n
  | .list items => areData items
  | .tuple items => areData items
  | .set items => areData items
  | .map entries => entriesAreData entries
  | .view entries => entriesAreData entries
  | .cycle first => isData first
  | .object _ _ _ => false

/-- `isData` for every member of a list. -/
def areData : List Value → Bool
  | [] => true
  | v :: rest => isData v && areData rest

/-- `isData` for the keys and the values of entries. -/
def entriesAreData : List (Value × Value) → Bool
  | [] => true
  | (k, v) :: rest => isData k && isData v && entriesAreData rest
end

variable {v : Value} {entries : List (Value × Value)} {key : String}

/-! ## Literals -/

mutual
/-- Plain data has a literal. -/
theorem exists_literal_of_isData : ∀ {v : Value}, v.isData = true → ∃ t, v.literal = .ok t
  | .null, _ | .bool _, _ | .float _, _ | .text _, _ | .bytes _, _ => by
    simp only [literal, Except.ok.injEq, exists_eq']
  | .int n, h => by
    rw [isData, Bool.not_eq_true'] at h
    exact ⟨toString n, by rw [literal, intLiteral, Integer.text?, h]; rfl⟩
  | .list items, h => by
    rw [isData] at h
    obtain ⟨ts, hts⟩ := exists_literals_of_areData h
    exact ⟨_, by rw [literal, hts]; rfl⟩
  | .tuple [], _ => ⟨_, rfl⟩
  | .tuple [item], h => by
    rw [isData, areData, Bool.and_eq_true] at h
    obtain ⟨t, ht⟩ := exists_literal_of_isData h.1
    exact ⟨_, by rw [literal, ht]; rfl⟩
  | .tuple (first :: second :: rest), h => by
    rw [isData] at h
    obtain ⟨ts, hts⟩ := exists_literals_of_areData h
    exact ⟨_, by rw [literal, hts]; rfl; simp⟩
  | .set [], _ => ⟨_, rfl⟩
  | .set (first :: rest), h => by
    rw [isData] at h
    obtain ⟨ts, hts⟩ := exists_literals_of_areData h
    exact ⟨_, by rw [literal, hts]; rfl; simp⟩
  | .map entries, h => by
    rw [isData] at h
    obtain ⟨ts, hts⟩ := exists_entryLiterals_of_areData h
    exact ⟨_, by rw [literal, hts]; rfl⟩
  | .view entries, h => by
    rw [isData] at h
    obtain ⟨ts, hts⟩ := exists_entryLiterals_of_areData h
    exact ⟨_, by rw [literal, hts]; rfl⟩
  | .cycle first, h => by
    rw [isData] at h
    obtain ⟨t, ht⟩ := exists_literal_of_isData h
    exact ⟨_, by rw [literal, ht]; rfl⟩

/-- The members of a list of plain data have literals. -/
theorem exists_literals_of_areData :
    ∀ {items : List Value}, areData items = true → ∃ ts, literals items = .ok ts
  | [], _ => ⟨_, rfl⟩
  | v :: rest, h => by
    rw [areData, Bool.and_eq_true] at h
    obtain ⟨t, ht⟩ := exists_literal_of_isData h.1
    obtain ⟨ts, hts⟩ := exists_literals_of_areData h.2
    exact ⟨t :: ts, by rw [literals, ht, hts]; rfl⟩

/-- The entries of a map of plain data have literals. -/
theorem exists_entryLiterals_of_areData : ∀ {entries : List (Value × Value)},
    entriesAreData entries = true → ∃ ts, entryLiterals entries = .ok ts
  | [], _ => ⟨_, rfl⟩
  | (k, v) :: rest, h => by
    rw [entriesAreData, Bool.and_eq_true, Bool.and_eq_true] at h
    obtain ⟨key, hkey⟩ := exists_literal_of_isData h.1.1
    obtain ⟨t, ht⟩ := exists_literal_of_isData h.1.2
    obtain ⟨ts, hts⟩ := exists_entryLiterals_of_areData h.2
    exact ⟨_, by rw [entryLiterals, hkey, ht, hts]; rfl⟩
end

/-! ## Echoes -/

/-- Plain data as a key has a JSON text, or the writer refuses it. -/
theorem jsonKey_ne_raised_of_isData {x : Raised} (h : v.isData = true) :
    v.jsonKey ≠ .error (.raised x) := by
  cases v with
  | int n =>
    rw [isData, Bool.not_eq_true'] at h
    simp [jsonKey, intJson, Integer.text?, h]
  | object => cases h
  | _ => simp [jsonKey]

mutual
/-- Plain data has a JSON text, or the writer refuses it: nothing else is raised. -/
theorem json_ne_raised_of_isData :
    ∀ {v : Value} {x : Raised}, v.isData = true → v.json ≠ .error (.raised x)
  | .null, _, _ | .bool _, _, _ | .float _, _, _ | .text _, _, _ | .bytes _, _, _ | .set _, _, _
  | .view _, _, _ => by simp [json]
  | .int n, x, h => by
    rw [isData, Bool.not_eq_true'] at h
    simp [json, intJson, Integer.text?, h]
  | .list items, x, h => by
    rw [isData] at h
    rw [json, ne_eq, map_eq_error_iff]
    exact jsons_ne_raised_of_areData h
  | .tuple items, x, h => by
    rw [isData] at h
    rw [json, ne_eq, map_eq_error_iff]
    exact jsons_ne_raised_of_areData h
  | .map entries, x, h => by
    rw [isData] at h
    rw [json, ne_eq, map_eq_error_iff]
    exact entryJsons_ne_raised_of_areData h
  | .cycle first, x, h => by
    rw [isData] at h
    have hfirst := json_ne_raised_of_isData (x := x) h
    rw [json]
    split
    · next e he =>
      rw [he] at hfirst
      simpa using hfirst
    · simp

/-- The members of a list of plain data have JSON texts, or the writer refuses one. -/
theorem jsons_ne_raised_of_areData :
    ∀ {items : List Value} {x : Raised}, areData items = true → jsons items ≠ .error (.raised x)
  | [], _, _ => by simp [jsons]
  | v :: rest, x, h => by
    rw [areData, Bool.and_eq_true] at h
    have hv := json_ne_raised_of_isData (x := x) h.1
    rw [jsons]
    split
    · next e he =>
      rw [he] at hv
      simpa using hv
    · rw [ne_eq, map_eq_error_iff]
      exact jsons_ne_raised_of_areData h.2

/-- The entries of a map of plain data have JSON texts, or the writer refuses one. -/
theorem entryJsons_ne_raised_of_areData : ∀ {entries : List (Value × Value)} {x : Raised},
    entriesAreData entries = true → entryJsons entries ≠ .error (.raised x)
  | [], _, _ => by simp [entryJsons]
  | (k, v) :: rest, x, h => by
    rw [entriesAreData, Bool.and_eq_true, Bool.and_eq_true] at h
    have hk := jsonKey_ne_raised_of_isData (x := x) h.1.1
    have hv := json_ne_raised_of_isData (x := x) h.1.2
    rw [entryJsons]
    split
    · next e he =>
      rw [he] at hk
      simpa using hk
    · split
      · next e he =>
        rw [he] at hv
        simpa using hv
      · rw [ne_eq, map_eq_error_iff]
        exact entryJsons_ne_raised_of_areData h.2
end

/-- A message can echo plain data. -/
theorem exists_echo_of_isData (h : v.isData = true) : ∃ shown, v.echo = .ok shown := by
  rw [echo]
  split
  · exact ⟨_, rfl⟩
  · exact exists_literal_of_isData h
  · next x hx => exact absurd hx (json_ne_raised_of_isData h)

/-- A power of ten is too long where its exponent reaches the limit. -/
theorem isLong_pow {k : Nat} (h : Integer.maxDigits ≤ k) :
    Integer.isLong (Nat.pow 10 k) = true := by
  unfold Integer.isLong
  rw [Int.natAbs_natCast, decide_eq_true_iff]
  generalize Integer.maxDigits = digits at h
  exact Nat.pow_le_pow_right (by decide) h

/-- An integer of too many digits has neither a JSON text nor a literal, so nothing echoes it. -/
theorem echo_of_isLong {n : Int} (h : Integer.isLong n = true) :
    (Value.int n).echo = .error .longInteger := by
  simp [echo, json, intJson, literal, intLiteral, Integer.text?, h]

/-! ## Questions -/

/-- Whether plain data counts as given can be said. -/
theorem exists_isGiven_of_isData (h : v.isData = true) : ∃ given, v.isGiven = .ok given := by
  cases v with
  | object => cases h
  | _ => exact ⟨_, rfl⟩

/-- A value among plain data is plain data. -/
theorem isData_of_lookup (h : entriesAreData entries = true)
    (hv : lookup key entries = some v) : v.isData = true := by
  fun_induction lookup key entries with
  | case1 => cases hv
  | case2 w rest =>
    rw [entriesAreData, Bool.and_eq_true, Bool.and_eq_true] at h
    cases hv
    exact h.1.2
  | case3 k w rest _ ih =>
    rw [entriesAreData, Bool.and_eq_true] at h
    exact ih h.2 hv
  | case4 e rest _ ih =>
    rw [entriesAreData, Bool.and_eq_true] at h
    exact ih h.2 hv

/-- Plain data answers for every key, with plain data where it holds the key. -/
theorem exists_get_of_isData (h : v.isData = true) :
    ∃ found?, v.get key = .ok found? ∧ ∀ w ∈ found?, w.isData = true := by
  have hentries : ∀ {entries}, v.entries? = some entries → entriesAreData entries = true := by
    intro entries heq
    cases v with
    | map held | view held =>
      cases heq
      simpa [isData] using h
    | object => cases h
    | _ => cases heq
  refine ⟨v.entries?.bind (lookup key), ?_, fun w hw => ?_⟩
  · cases v with
    | object => cases h
    | _ => rfl
  · obtain ⟨entries, heq, hlookup⟩ := Option.bind_eq_some_iff.1 hw
    exact isData_of_lookup (hentries heq) hlookup

end HandlerPipeline.Value
