import HandlerPipeline.Path.Value
import HandlerPipeline.Proofs.FileTree.Looks
import HandlerPipeline.Proofs.Text.Pieces

/-!
# Where joined paths lead

A component that is written behind a path adds its components to those of the path
(`Path.components_joinNext`), so the joined path leads on from where the path leads
(`Path.walk_joinNext`); plain names lead one folder down each (`Path.walk_join`). A path that was
taken apart leads where its text does (`PathValue.location_ofText`), and plain names behind it lead
on in the same way (`PathValue.location_append`). No path leads deeper than it has components
(`Path.length_follow_le`), and it has one more than slashes at most (`Path.length_components_le`).
-/

namespace HandlerPipeline

namespace Path

variable {cwd folder names : List String} {path component name suffix : String}

/-! ## Texts -/

/-- A text without slashes is no absolute path. -/
theorem isAbsolute_of_notMem (h : '/' ∉ component.toList) : isAbsolute component = false := by
  rw [isAbsolute, beq_eq_false_iff_ne]
  exact fun hhead => h (List.mem_of_head? hhead)

/-- A plain component is no absolute path. -/
theorem IsPlain.isAbsolute (h : IsPlain name) : isAbsolute name = false :=
  isAbsolute_of_notMem h.slash_notMem

/-- A plain component is a path of its own, of one component. -/
theorem components_of_isPlain (h : IsPlain name) : components name = [name] := by
  have hone : Text.pieces (· == '/') name.toList = [name.toList] :=
    Text.pieces_of_not_separates fun c hc => beq_eq_false_iff_ne.2 fun heq =>
      h.slash_notMem (heq ▸ hc)
  rw [components, hone]
  simp [h.ne_empty, h.ne_dot]

/-- The components on both sides of a slash are those of the path. -/
theorem components_append_slash {front behind : String} :
    components (front ++ "/" ++ behind) = components front ++ components behind := by
  have htext : (front ++ "/" ++ behind).toList = front.toList ++ '/' :: behind.toList := by
    simp
  rw [components, htext, Text.pieces_append rfl, List.map_append, List.filter_append]
  rfl

/-- A component behind a path adds its components. -/
theorem components_joinNext (h : isAbsolute component = false) :
    components (joinNext path component) = components path ++ components component := by
  rw [joinNext, h, if_neg Bool.false_ne_true]
  split
  · next hend =>
    rw [Bool.or_eq_true, decide_eq_true_iff, beq_iff_eq] at hend
    rcases hend with rfl | hslash
    · rw [String.empty_append]
      rfl
    · -- The path ends with a slash, so the component is written behind one here too.
      obtain ⟨front, hfront⟩ := List.getLast?_eq_some_iff.1 hslash
      have hpath : path = String.ofList front ++ "/" := by
        rw [← String.toList_inj, hfront]
        simp
      have hnone : components "" = [] := by decide +kernel
      have hcomponents : components path = components (String.ofList front) := by
        rw [hpath, ← String.append_empty (s := String.ofList front ++ "/"),
          components_append_slash, hnone, List.append_nil]
      rw [hcomponents, hpath, components_append_slash]
  · exact components_append_slash

/-- A component behind a path leaves it absolute or relative. -/
theorem isAbsolute_joinNext (h : isAbsolute component = false) :
    isAbsolute (joinNext path component) = isAbsolute path := by
  rw [joinNext, h, if_neg Bool.false_ne_true]
  by_cases hpath : path = ""
  · subst hpath
    have hend : (decide ("" = "") || "".toList.getLast? == some '/') = true := by decide
    rw [if_pos hend, String.empty_append, h]
    rfl
  · have hne : path.toList ≠ [] := fun hnil => hpath (String.toList_eq_nil_iff.1 hnil)
    obtain ⟨c, rest, hc⟩ := List.exists_cons_of_ne_nil hne
    split <;> simp [isAbsolute, hc]

/-- Components are followed in turn. -/
theorem follow_append {behind : List String} :
    follow folder (names ++ behind) = follow (follow folder names) behind := by
  induction names generalizing folder with
  | nil => rfl
  | cons name names ih =>
    rw [List.cons_append]
    by_cases hup : name = ".."
    · subst hup
      rw [follow, follow]
      split <;> exact ih
    · rw [follow, follow, ih] <;> exact hup

/-- A joined path leads on from where the path leads. -/
theorem walk_joinNext (h : isAbsolute component = false) :
    walk cwd (joinNext path component) = follow (walk cwd path) (components component) := by
  rw [walk, walk, isAbsolute_joinNext h, components_joinNext h, follow_append]

/-- Plain names behind a path lead one folder down each. -/
theorem walk_join (h : ∀ name ∈ names, IsPlain name) :
    walk cwd (join path names) = walk cwd path ++ names := by
  induction names generalizing path with
  | nil => simp [join]
  | cons name names ih =>
    obtain ⟨hname, hnames⟩ := List.forall_mem_cons.1 h
    have hjoin : join path (name :: names) = join (joinNext path name) names := rfl
    rw [hjoin, ih hnames, walk_joinNext hname.isAbsolute, components_of_isPlain hname,
      follow_of_isPlain (List.forall_mem_singleton.2 hname), List.append_assoc]
    rfl

/-- A suffix behind a joined path is one behind its last name. -/
theorem join_append_suffix (hne : name ≠ "") :
    join path (names ++ [name]) ++ suffix = join path (names ++ [name ++ suffix]) := by
  have habsolute : isAbsolute (name ++ suffix) = isAbsolute name := by
    have hnil : name.toList ≠ [] := fun hnil => hne (String.toList_eq_nil_iff.1 hnil)
    obtain ⟨c, rest, hc⟩ := List.exists_cons_of_ne_nil hnil
    simp [isAbsolute, hc]
  simp only [join, List.foldl_append, List.foldl_cons, List.foldl_nil]
  generalize names.foldl joinNext path = front
  rw [joinNext, joinNext, habsolute]
  split
  · rfl
  · split <;> rw [String.append_assoc]

/-! ## Lengths -/

/-- Components lead down one folder each at most. -/
theorem length_follow_le {folder names : List String} :
    (follow folder names).length ≤ folder.length + names.length := by
  induction names generalizing folder with
  | nil => simp [follow]
  | cons name names ih =>
    have hdown := @ih (folder ++ [name])
    have hup := @ih folder.dropLast
    rw [List.length_append, List.length_singleton] at hdown
    rw [List.length_dropLast] at hup
    rw [List.length_cons]
    by_cases hname : name = ".."
    · subst hname
      rw [follow]
      split <;> omega
    · rw [follow]
      · omega
      · exact hname

/-- A path has one component more than slashes at most. -/
theorem length_components_le {path : String} :
    (components path).length ≤ path.toList.countP (· == '/') + 1 := by
  rw [← Text.length_pieces, ← List.length_map (f := String.ofList)]
  exact List.length_filter_le _ _

/-- And fewer where a piece between slashes is empty. -/
theorem length_components_lt {path : String} (h : [] ∈ Text.pieces (· == '/') path.toList) :
    (components path).length < path.toList.countP (· == '/') + 1 := by
  rw [← Text.length_pieces, ← List.length_map (f := String.ofList)]
  exact List.length_filter_lt_length_iff_exists.2
    ⟨"", List.mem_map.2 ⟨[], h, rfl⟩, by simp⟩

end Path

namespace PathValue

variable {cwd names : List String} {p : PathValue} {root name suffix : String}

/-! ## Values -/

/-- A path has slashes in front exactly where it is absolute. -/
theorem rootOf_eq_empty_iff {path : String} : rootOf path = "" ↔ Path.isAbsolute path = false := by
  unfold rootOf Path.isAbsolute
  split
  · next h => simp [h]
  · next h => simp [h]
  · next h => simp [h]
  · next hnone =>
    have hhead : path.toList.head? ≠ some '/' := by
      intro hhead
      obtain ⟨rest, hrest⟩ := List.head?_eq_some_iff.1 hhead
      exact hnone rest hrest
    simpa using hhead

/-- A path that was taken apart leads where its text does. -/
theorem location_ofText {path : String} : (ofText path).location cwd = Path.walk cwd path := by
  rw [location, Path.walk, ofText]
  simp only [rootOf_eq_empty_iff]
  cases Path.isAbsolute path <;> rfl

/-- Plain names are put behind a path as they are. -/
theorem join_of_isPlain (h : ∀ name ∈ names, Path.IsPlain name) :
    p.join names = ⟨p.root, p.names ++ names⟩ := by
  induction names generalizing p with
  | nil => simp [join]
  | cons name names ih =>
    obtain ⟨hname, hnames⟩ := List.forall_mem_cons.1 h
    have hjoin : p.join (name :: names) = (p.joinNext name).join names := rfl
    have hroot : (ofText name).root = "" := rootOf_eq_empty_iff.2 hname.isAbsolute
    have hone : (ofText name).names = [name] := Path.components_of_isPlain hname
    rw [hjoin, ih hnames, joinNext, if_pos hroot, hone, List.append_assoc]
    rfl

/-- Plain names behind a path lead one folder down each. -/
theorem location_append (h : ∀ name ∈ names, Path.IsPlain name) :
    location cwd ⟨p.root, p.names ++ names⟩ = p.location cwd ++ names := by
  rw [location, location, Path.follow_append, Path.follow_of_isPlain h]

/-- The last name of a path. -/
@[simp] theorem name_append {last : String} :
    PathValue.name ⟨root, names ++ [last]⟩ = last := by
  rw [PathValue.name, List.getLast?_concat, Option.getD_some]

/-- The path above the last name. -/
@[simp] theorem parent_append {last : String} :
    parent ⟨root, names ++ [last]⟩ = ⟨root, names⟩ := by
  rw [parent, List.dropLast_concat]

/-! ## Exchanging names -/

/-- The last name may be exchanged for a plain one. -/
theorem withName_of_isPlain {last : String} (hlast : last ≠ "") (hname : Path.IsPlain name) :
    withName ⟨root, names ++ [last]⟩ name = .ok ⟨root, names ++ [name]⟩ := by
  have hslash : name.toList.getLast? ≠ some '/' :=
    fun h => hname.slash_notMem (List.mem_of_getLast? h)
  have hroot : rootOf name = "" := rootOf_eq_empty_iff.2 hname.isAbsolute
  have hone : (Path.components name).length = 1 := by rw [Path.components_of_isPlain hname]; rfl
  rw [withName, name_append, if_neg hlast, if_neg, List.dropLast_concat]
  simp [hname.ne_empty, hslash, hroot, hone]

/-- The text is the suffix of any name that it stands behind: a dot, and something behind it without
a dot or a slash. -/
def IsSuffix (suffix : String) : Prop :=
  ∃ kind : String, suffix = "." ++ kind ∧ kind ≠ "" ∧ '.' ∉ kind.toList ∧ '/' ∉ kind.toList

/-- The suffix of a name is taken off it. -/
theorem unsuffixed_append (hname : name ≠ "") (h : IsSuffix suffix) :
    unsuffixed (name ++ suffix) = name := by
  obtain ⟨kind, rfl, hkind, hdot, -⟩ := h
  have hcut : Text.cutLast '.' (name ++ ("." ++ kind)).toList = some (name.toList, kind.toList) :=
    Text.cutLast_eq_some_iff.2 ⟨by simp, hdot⟩
  have hfront : name.toList.isEmpty = false := by simpa using hname
  have hback : kind.toList.isEmpty = false := by simpa using hkind
  rw [unsuffixed, hcut]
  simp [hfront, hback]

/-- The suffix of the last name may be exchanged for another one. -/
theorem withSuffix_append {suffix' : String} (hname : name ≠ "") (h : IsSuffix suffix)
    (h' : IsSuffix suffix') :
    withSuffix ⟨root, names ++ [name ++ suffix]⟩ suffix' =
      .ok ⟨root, names ++ [name ++ suffix']⟩ := by
  have hallowed : ¬ ('/' ∈ suffix'.toList ∨ (suffix' ≠ "" ∧ suffix'.toList.head? ≠ some '.') ∨
      suffix' = ".") := by
    obtain ⟨kind, rfl, hkind, -, hslash⟩ := h'
    simp [hslash, hkind]
  have hlast : name ++ suffix ≠ "" := fun hempty => hname (String.append_eq_empty_iff.1 hempty).1
  rw [withSuffix, name_append, if_neg hallowed, if_neg hlast, unsuffixed_append hname h,
    List.dropLast_concat]

end PathValue

end HandlerPipeline
