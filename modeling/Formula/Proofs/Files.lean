import Formula.Document

/-!
# Where paths lead

The names of a path lead from directory to directory, and the last of them to a place where a text may be.

* `follow_eq_ok_iff`, `text?_eq_ok_iff` : a text is found when the names lead to a place and the text is there.
* `Reaches.eq_foldl` : the names alone tell which place that is.
* `follow_add_eq_ok_iff` : a file that is added is found wherever the names lead to it, and elsewhere all is as it was.
* `text?_add`, `ofFile?_add`, `fits_temporary` : it is found on the path of its own names, which may be those of any
  file in the directory for files that are not kept.
-/

namespace Formula.Files

/-- The name stands for an entry of the directory that it is looked up in. -/
structure IsPlain (name : String) : Prop where
  ne_empty : name ≠ ""
  ne_dot : name ≠ "."
  ne_dots : name ≠ ".."
  size_le : name.utf8ByteSize ≤ greatestName

/-- There is a directory at the place, and no text. -/
structure IsOpen (files : Files) (place : List String) : Prop where
  no_text : files.texts.lookup place = none
  mem_directories : place ∈ files.directories

/-- From a directory the names lead to a place, and each directory on the way is there. -/
inductive Reaches (files : Files) : List String → List String → List String → Prop
  | last {directory : List String} {name : String} (h : IsPlain name) :
    Reaches files directory [name] (directory ++ [name])
  | stay {directory rest place : List String} {name : String} (h : name = "" ∨ name = ".")
    (more : Reaches files directory rest place) : Reaches files directory (name :: rest) place
  | up {directory rest place : List String} (more : Reaches files directory.dropLast rest place) :
    Reaches files directory (".." :: rest) place
  | down {directory rest place : List String} {name : String} (h : IsPlain name)
    (hopen : files.IsOpen (directory ++ [name])) (more : Reaches files (directory ++ [name]) rest place) :
    Reaches files directory (name :: rest) place

/-- A file can be put under the names: they are those of a path, and the directories before the last one are there. -/
structure Fits (files : Files) (names : List String) : Prop where
  ne_nil : names ≠ []
  plain : ∀ name ∈ names, IsPlain name
  no_slash : ∀ name ∈ names, '/' ∉ name.toList
  isOpen : ∀ front back, names = front ++ back → front ≠ [] → back ≠ [] → files.IsOpen front
  size_le : (pathOf names).utf8ByteSize ≤ greatestPath

/-- Where a name leads from a directory, whatever is there. -/
def next (directory : List String) (name : String) : List String :=
  if name = "" ∨ name = "." then directory
  else if name = ".." then directory.dropLast
  else directory ++ [name]

variable {files : Files} {directory rest place : List String} {name text : String}

/-! ## The kinds of names -/

theorem IsPlain.not_stay (h : IsPlain name) : ¬ (name = "" ∨ name = ".") := not_or.2 ⟨h.ne_empty, h.ne_dot⟩

theorem isPlain_of_not (hstay : ¬ (name = "" ∨ name = ".")) (hup : name ≠ "..")
    (hsize : ¬ greatestName < name.utf8ByteSize) : IsPlain name :=
  ⟨fun h => hstay (.inl h), fun h => hstay (.inr h), hup, Nat.not_lt.1 hsize⟩

theorem not_reaches_nil : ¬ files.Reaches directory [] place := by
  rintro ⟨⟩

theorem reaches_stay_iff (h : name = "" ∨ name = ".") :
    files.Reaches directory (name :: rest) place ↔ files.Reaches directory rest place := by
  refine ⟨fun hreaches => ?_, .stay h⟩
  cases hreaches with
  | stay _ more => exact more
  | last hplain => exact absurd h hplain.not_stay
  | down hplain => exact absurd h hplain.not_stay
  | up => exact absurd h (by decide)

theorem reaches_up_iff :
    files.Reaches directory (".." :: rest) place ↔ files.Reaches directory.dropLast rest place := by
  refine ⟨fun hreaches => ?_, .up⟩
  cases hreaches with
  | up more => exact more
  | stay h => exact absurd h (by decide)
  | last hplain => exact absurd rfl hplain.ne_dots
  | down hplain => exact absurd rfl hplain.ne_dots

theorem reaches_plain_iff (h : IsPlain name) : files.Reaches directory (name :: rest) place ↔
    (rest = [] ∧ place = directory ++ [name]) ∨
      files.IsOpen (directory ++ [name]) ∧ files.Reaches (directory ++ [name]) rest place := by
  constructor
  · intro hreaches
    cases hreaches with
    | last => exact .inl ⟨rfl, rfl⟩
    | down _ hopen more => exact .inr ⟨hopen, more⟩
    | stay hstay => exact absurd hstay h.not_stay
    | up => exact absurd rfl h.ne_dots
  · rintro (⟨rfl, rfl⟩ | ⟨hopen, more⟩)
    · exact .last h
    · exact .down h hopen more

theorem not_reaches_of_long (hstay : ¬ (name = "" ∨ name = ".")) (hup : name ≠ "..")
    (hlong : greatestName < name.utf8ByteSize) : ¬ files.Reaches directory (name :: rest) place := by
  intro hreaches
  cases hreaches with
  | stay h => exact hstay h
  | up => exact hup rfl
  | last h => exact absurd h.size_le (Nat.not_le.2 hlong)
  | down h => exact absurd h.size_le (Nat.not_le.2 hlong)

/-- What a plain name leads to when the rest of the names leads on from there. -/
theorem follow_plain_eq_ok_iff (h : IsPlain name) (hrest : files.follow (directory ++ [name]) rest = .ok text ↔
      ∃ place, files.Reaches (directory ++ [name]) rest place ∧ files.texts.lookup place = some text) :
    files.follow directory (name :: rest) = .ok text ↔
      ∃ place, files.Reaches directory (name :: rest) place ∧ files.texts.lookup place = some text := by
  rw [follow, if_neg h.not_stay, if_neg h.ne_dots, if_neg (Nat.not_lt.2 h.size_le)]
  simp only [reaches_plain_iff h]
  cases htext : files.texts.lookup (directory ++ [name]) with
  | some found =>
    have hclosed : ¬ files.IsOpen (directory ++ [name]) := fun hopen => by cases htext.symm.trans hopen.no_text
    by_cases hlast : rest = [] <;> simp [hlast, hclosed, htext]
  | none =>
    by_cases hmem : directory ++ [name] ∈ files.directories
    · have hopen : files.IsOpen (directory ++ [name]) := ⟨htext, hmem⟩
      simp only [if_pos hmem, hrest]
      constructor
      · rintro ⟨place, hreaches, hfound⟩
        exact ⟨place, .inr ⟨hopen, hreaches⟩, hfound⟩
      · rintro ⟨place, ⟨-, rfl⟩ | ⟨-, hreaches⟩, hfound⟩
        · cases htext.symm.trans hfound
        · exact ⟨place, hreaches, hfound⟩
    · have hclosed : ¬ files.IsOpen (directory ++ [name]) := fun hopen => hmem hopen.mem_directories
      simp [hmem, hclosed, htext]

/-! ## Many names -/

/-- **A text is found** when the names lead to a place and the text is there. -/
theorem follow_eq_ok_iff : ∀ {names directory : List String}, files.follow directory names = .ok text ↔
    ∃ place, files.Reaches directory names place ∧ files.texts.lookup place = some text
  | [], directory => by simp [follow, not_reaches_nil]
  | name :: rest, directory => by
    by_cases hstay : name = "" ∨ name = "."
    · simp only [follow, if_pos hstay, follow_eq_ok_iff, reaches_stay_iff hstay]
    by_cases hup : name = ".."
    · subst hup
      simp only [follow, if_neg hstay, if_true, follow_eq_ok_iff, reaches_up_iff]
    by_cases hlong : greatestName < name.utf8ByteSize
    · simp [follow, hstay, hup, hlong, not_reaches_of_long hstay hup hlong]
    · exact follow_plain_eq_ok_iff (isPlain_of_not hstay hup hlong) follow_eq_ok_iff

/-- **A path leads to a text** from the root if it starts with a slash, and from the working directory if not. -/
theorem text?_eq_ok_iff {path : String} : files.text? path = .ok text ↔
    path ≠ "" ∧ path.utf8ByteSize ≤ greatestPath ∧
      ∃ place, files.Reaches (if path.toList.head? = some '/' then [] else files.working) (namesOf path) place ∧
        files.texts.lookup place = some text := by
  rw [← follow_eq_ok_iff, text?]
  by_cases hempty : path = ""
  · simp [hempty]
  · by_cases hlong : greatestPath < path.utf8ByteSize
    · simp [hempty, hlong, Nat.not_le.2 hlong]
    · rw [if_neg hempty, if_neg hlong]
      exact ⟨fun h => ⟨hempty, Nat.not_lt.1 hlong, h⟩, fun h => h.2.2⟩

theorem next_plain (h : IsPlain name) : next directory name = directory ++ [name] := by
  rw [next, if_neg h.not_stay, if_neg h.ne_dots]

/-- **The names tell the place** that they lead to. -/
theorem Reaches.eq_foldl {names : List String} (h : files.Reaches directory names place) :
    place = names.foldl next directory := by
  induction h with
  | last h => rw [List.foldl_cons, List.foldl_nil, next_plain h]
  | stay h _ ih => rw [List.foldl_cons, next, if_pos h, ih]
  | up _ ih => exact ih
  | down h _ _ ih => rw [List.foldl_cons, next_plain h, ih]

/-- Plain names lead on as long as each place before the last is open. -/
theorem reaches_of_isOpen : ∀ {names : List String} (directory : List String), names ≠ [] →
    (∀ name ∈ names, IsPlain name) →
    (∀ front back, names = front ++ back → front ≠ [] → back ≠ [] → files.IsOpen (directory ++ front)) →
      files.Reaches directory names (directory ++ names)
  | [], _, h, _, _ => absurd rfl h
  | [name], _, _, hplain, _ => .last (hplain name List.mem_cons_self)
  | name :: name' :: rest, directory, _, hplain, hopen => by
    obtain ⟨hname, hrest⟩ := List.forall_mem_cons.1 hplain
    have hnext : files.IsOpen (directory ++ [name]) :=
      hopen [name] (name' :: rest) rfl (List.cons_ne_nil _ _) (List.cons_ne_nil _ _)
    refine .down hname hnext ?_
    rw [List.append_cons directory name (name' :: rest)]
    refine reaches_of_isOpen _ (List.cons_ne_nil _ _) hrest fun front back hfront hne hback => ?_
    rw [← List.append_cons]
    exact hopen (name :: front) back (by rw [hfront, List.cons_append]) (List.cons_ne_nil _ _) hback

/-- Where all that is open stays open, the names still lead to the place. -/
theorem Reaches.mono {files' : Files} {names : List String} (hopen : ∀ place, files.IsOpen place → files'.IsOpen place)
    (h : files.Reaches directory names place) : files'.Reaches directory names place := by
  induction h with
  | last h => exact .last h
  | stay h _ ih => exact .stay h ih
  | up _ ih => exact .up ih
  | down h hplace _ ih => exact .down h (hopen _ hplace) ih

/-! ## Adding a file -/

section

variable {added names : List String}

theorem lookup_texts_add (h : place ≠ added) :
    (files.add added text).texts.lookup place = files.texts.lookup place := by
  rw [add, List.lookup_cons, beq_eq_false_iff_ne.2 h]

theorem isOpen_add_iff (h : place ≠ added) : (files.add added text).IsOpen place ↔ files.IsOpen place := by
  constructor
  · exact fun hopen => ⟨(lookup_texts_add h).symm.trans hopen.no_text, hopen.mem_directories⟩
  · exact fun hopen => ⟨(lookup_texts_add h).trans hopen.no_text, hopen.mem_directories⟩

/-- A file that takes the place of no directory is in no way. -/
theorem reaches_add_iff (hadded : added ∉ files.directories) :
    (files.add added text).Reaches directory names place ↔ files.Reaches directory names place := by
  have hne {place : List String} (hmem : place ∈ files.directories) : place ≠ added :=
    fun h => hadded (h ▸ hmem)
  constructor
  · exact Reaches.mono fun place hopen => (isOpen_add_iff (hne hopen.mem_directories)).1 hopen
  · exact Reaches.mono fun place hopen => (isOpen_add_iff (hne hopen.mem_directories)).2 hopen

/-- **A file that is added** is found wherever the names lead to it, and elsewhere what was found before is. -/
theorem follow_add_eq_ok_iff (hadded : added ∉ files.directories) {found : String} :
    (files.add added text).follow directory names = .ok found ↔
      files.Reaches directory names added ∧ found = text ∨
        ¬ files.Reaches directory names added ∧ files.follow directory names = .ok found := by
  simp only [follow_eq_ok_iff, reaches_add_iff hadded]
  have hself : (files.add added text).texts.lookup added = some text := List.lookup_cons_self
  constructor
  · rintro ⟨place, hreaches, hfound⟩
    by_cases hplace : place = added
    · subst hplace
      exact .inl ⟨hreaches, Option.some.inj (hfound.symm.trans hself)⟩
    · refine .inr ⟨fun h => hplace (hreaches.eq_foldl.trans h.eq_foldl.symm), place, hreaches, ?_⟩
      rwa [lookup_texts_add hplace] at hfound
  · rintro (⟨hreaches, rfl⟩ | ⟨hnot, place, hreaches, hfound⟩)
    · exact ⟨added, hreaches, hself⟩
    · have hplace : place ≠ added := fun h => hnot (h ▸ hreaches)
      exact ⟨place, hreaches, by rwa [lookup_texts_add hplace]⟩

/-- The path of names without slashes is read as these names. -/
theorem namesOf_pathOf (hnames : names ≠ []) (h : ∀ name ∈ names, '/' ∉ name.toList) :
    namesOf (pathOf names) = "" :: names := by
  have hpath : (pathOf names).toList = ['/'].intercalate ([] :: names.map String.toList) := by
    obtain ⟨name, rest, rfl⟩ := List.exists_cons_of_ne_nil hnames
    rw [pathOf, String.toList_append, String.toList_intercalate]
    rfl
  have hnone : ∀ cs ∈ [] :: names.map String.toList, '/' ∉ cs := by simpa using h
  rw [namesOf, hpath, List.splitOn_intercalate '/' hnone (List.cons_ne_nil _ _)]
  simp [Function.comp_def]

/-- **A file is found on the path of its names.** -/
theorem text?_add (h : files.Fits names) : (files.add names text).text? (pathOf names) = .ok text := by
  have hreaches : (files.add names text).Reaches [] names names := by
    refine reaches_of_isOpen [] h.ne_nil h.plain fun front back hfront hne hback => ?_
    have hshorter : front ≠ names := fun heq => hback (List.append_right_eq_self.1 (hfront.symm.trans heq.symm))
    exact (isOpen_add_iff hshorter).2 (h.isOpen front back hfront hne hback)
  have hslash : (pathOf names).toList = '/' :: ("/".intercalate names).toList := by
    rw [pathOf, String.toList_append]
    rfl
  have hne : pathOf names ≠ "" := fun heq => by simp [heq] at hslash
  rw [text?_eq_ok_iff, hslash, List.head?_cons, if_pos rfl, namesOf_pathOf h.ne_nil h.no_slash]
  exact ⟨hne, h.size_le, names, .stay (.inl rfl) hreaches, List.lookup_cons_self⟩

/-- The directory for files that are not kept is there on every system. -/
theorem fits_temporary (hplain : IsPlain name) (hslash : '/' ∉ name.toList) : standard.Fits ["tmp", name] where
  ne_nil := List.cons_ne_nil _ _
  plain := List.forall_mem_cons.2 ⟨⟨by decide, by decide, by decide, by decide⟩, List.forall_mem_singleton.2 hplain⟩
  no_slash := List.forall_mem_cons.2 ⟨by decide, List.forall_mem_singleton.2 hslash⟩
  isOpen front back h hne hback := by
    rcases front with _ | ⟨first, _ | ⟨second, more⟩⟩
    · exact absurd rfl hne
    · obtain ⟨rfl, -⟩ := List.cons.inj h
      exact ⟨by decide, by decide⟩
    · have hlength := congrArg List.length h
      have hmore := List.length_pos_iff.2 hback
      simp only [List.length_append, List.length_cons, List.length_nil] at hlength
      omega
  size_le := by
    have hpath : pathOf ["tmp", name] = "/" ++ ("tmp" ++ "/" ++ name) := rfl
    have hseparator : "/".utf8ByteSize = 1 := by decide
    have hdirectory : "tmp".utf8ByteSize = 3 := by decide
    have hname : name.utf8ByteSize ≤ 255 := hplain.size_le
    rw [hpath, String.utf8ByteSize_append, String.utf8ByteSize_append, String.utf8ByteSize_append, greatestPath]
    omega

example : ((standard.add ["tmp", "context.json"] "{}").text? "/dev/../tmp//./context.json").toOption = some "{}" := by
  decide +kernel

/-- A context is read from the file as from its text. -/
theorem ofFile?_add (library : Json.Library) (h : files.Fits names) :
    Context.ofFile? library ((files.add names text).text? (pathOf names)) = Context.ofJson? library text := by
  rw [text?_add h, Context.ofFile?]

end

end Formula.Files
