import Formula.Proofs.CommandLine
import Formula.Proofs.Document.Scalars

/-!
# The context of a run

The context is that of the file, if one is named, with the bindings put on top in their order.

* `FileMembers` : the members of the context file.
* `buildContext_unreadable`, `buildContext_invalidJson` : a file that is of no use, whatever the bindings.
* `buildContext_of_map_read?` : the context of a file and of bindings.
* `last_value_counts` : what decides between a context and an error, and what is found in the context.
-/

namespace Formula.CommandLine

open Json (Alone ObjectText)

section

variable {library : Json.Library} {files : String → Except FileError String}

/-- The members of the context file: none if no file is named, and else those of the object of scalars that it holds. -/
inductive FileMembers (library : Json.Library) (files : String → Except FileError String) :
    Option String → List (String × Value) → Prop
  | unnamed : FileMembers library files none []
  | object {path json : String} {members : List (String × Value)} (read_eq : files path = .ok json)
    (isObject : Alone (ObjectText library) json.toList members) : FileMembers library files (some path) members

theorem buildContext_unreadable {path : String} {why : FileError} (h : files path = .error why)
    (bindings : List String) :
    buildContext library files (some path) bindings = .error (.file path (.unreadable why)) := by
  have hfile : Context.ofFile? library (files path) = .error (.unreadable why) := by rw [h, Context.ofFile?]
  exact buildContext_eq_error_iff.2 (.inl ⟨path, _, rfl, hfile, rfl⟩)

/-- A file that is no object of scalars is refused for a fault of its own. -/
theorem buildContext_invalidJson {path json : String} (h : files path = .ok json)
    (hjson : ∀ members, ¬ Alone (ObjectText library) json.toList members) :
    ∃ fault, ∀ bindings, buildContext library files (some path) bindings =
      .error (.file path (.invalidJson fault (library.complaint fault json))) := by
  cases hobject : Json.object? library json.toList with
  | ok members => exact absurd (Json.object?_eq_ok_iff.1 hobject) (hjson members)
  | error fault =>
    have hfile : Context.ofFile? library (files path) = .error (.invalidJson fault (library.complaint fault json)) := by
      simp only [h, Context.ofFile?, Context.ofJson?, hobject]
    exact ⟨fault, fun bindings => buildContext_eq_error_iff.2 (.inl ⟨path, _, rfl, hfile, rfl⟩)⟩

theorem ofFile?_of_object {path json : String} {members : List (String × Value)} (h : files path = .ok json)
    (hobject : Alone (ObjectText library) json.toList members) :
    Context.ofFile? library (files path) = .ok (Context.ofList members) := by
  rw [h, Context.ofFile?, Context.ofJson?_eq_ok_iff.2 ⟨members, hobject, rfl⟩]

theorem FileMembers.usable {file : Option String} {members : List (String × Value)}
    (h : FileMembers library files file members) : FileUsable library files file := by
  intro path hpath
  cases h with
  | unnamed => cases hpath
  | object read_eq isObject => exact ⟨_, Option.some.inj hpath ▸ ofFile?_of_object read_eq isObject⟩

/-- **What a context is built from**: the members of the file and the entries of the bindings. -/
theorem buildContext_of_map_read? {file : Option String} {members : List (String × Value)}
    (hfile : FileMembers library files file members) {bindings : List String} {entries : List (String × Value)}
    (hentries : bindings.map (Binding.read? library) = entries.map .ok) :
    buildContext library files file bindings =
      .ok (entries.foldl (fun c entry => c.set entry.1 entry.2) (Context.ofList members)) := by
  have hwith (c : Context) : buildContext.withBindings library bindings c =
      .ok (entries.foldl (fun c entry => c.set entry.1 entry.2) c) := by
    rw [buildContext.withBindings, Context.bindAll?_of_map_read? c hentries]
  cases hfile with
  | unnamed => exact hwith Context.empty
  | object read_eq isObject => simp only [buildContext, ofFile?_of_object read_eq isObject, hwith]

end

/-- **The first error and the last value count.** A context file that cannot be read or is no object of scalars is
refused, whatever the bindings. Where the file is of use, the first binding that is none decides, and where there is no
such binding, a context is built: a key has the value of the last binding of its name, or else of the last member of
the file, and there is no key beside those. -/
theorem last_value_counts (library : Json.Library) (files : String → Except FileError String) :
    (∀ path why, files path = .error why → ∀ bindings,
      buildContext library files (some path) bindings = .error (.file path (.unreadable why))) ∧
    (∀ path json, files path = .ok json → (∀ members, ¬ Alone (ObjectText library) json.toList members) →
      ∃ fault, ∀ bindings, buildContext library files (some path) bindings =
        .error (.file path (.invalidJson fault (library.complaint fault json)))) ∧
    ∀ file members, FileMembers library files file members → ∀ bindings,
      (∀ e, Binding.FirstRefused library bindings e → buildContext library files file bindings = .error (.binding e)) ∧
      ((∀ e, ¬ Binding.FirstRefused library bindings e) →
        ∃ entries : List (String × Value), bindings.map (Binding.read? library) = entries.map .ok ∧
          ∃ c, buildContext library files file bindings = .ok c ∧
            (∀ key, c.get? key = (entries.reverse.lookup key).or (members.reverse.lookup key)) ∧
            ∀ key, key ∈ c.keys ↔ key ∈ entries.map Prod.fst ∨ key ∈ members.map Prod.fst) := by
  refine ⟨fun path why => buildContext_unreadable, fun path json => buildContext_invalidJson,
    fun file members hfile bindings => ⟨fun e he => ?_, fun hnone => ?_⟩⟩
  · exact buildContext_eq_error_iff.2 (.inr ⟨hfile.usable, e, he, rfl⟩)
  · obtain ⟨entries, hentries⟩ := (Binding.firstRefused_or_map_read? bindings).resolve_left fun ⟨e, he⟩ => hnone e he
    have hget (key : String) :
        (entries.foldl (fun c entry => c.set entry.1 entry.2) (Context.ofList members)).get? key =
          (entries.reverse.lookup key).or (members.reverse.lookup key) := by
      rw [Context.get?_foldl_set, Context.get?_ofList]
    refine ⟨entries, hentries, _, buildContext_of_map_read? hfile hentries, hget, fun key => ?_⟩
    rw [← Context.isSome_get?_iff, hget, Option.isSome_or, Bool.or_eq_true, Context.isSome_lookup_iff,
      Context.isSome_lookup_iff, List.map_reverse, List.map_reverse, List.mem_reverse, List.mem_reverse]

/-- Two bindings of one name, which are told apart by white space only, on top of a file with that name. -/
theorem last_value_counts_same_name :
    ∃ c, buildContext .scaling (fun _ => .ok "\x7b\"a\":null,\"b\":\"y\"\x7d") (some "file") ["a=true", " a =x"] =
        .ok c ∧
      c.get? "a" = some (.string "x") ∧ c.get? "b" = some (.string "y") := by
  have hfile : FileMembers .scaling (fun _ => .ok "\x7b\"a\":null,\"b\":\"y\"\x7d") (some "file")
      [("a", .null), ("b", .string "y")] := .object rfl (Json.object?_eq_ok_iff.1 (by decide +kernel))
  have hread : ["a=true", " a =x"].map (Binding.read? .scaling) =
      [("a", .boolean true), ("a", .string "x")].map .ok := by decide
  obtain ⟨entries, hentries, c, hc, hget, -⟩ :=
    ((last_value_counts _ _).2.2 _ _ hfile ["a=true", " a =x"]).2 fun e he => by
      rw [← Context.bindAll?_eq_error_iff (c := .empty), Context.bindAll?_of_map_read? .empty hread] at he
      cases he
  obtain rfl := List.map_injective_iff.2 (fun _ _ => Except.ok.inj) (hentries.symm.trans hread)
  exact ⟨c, hc, hget "a", hget "b"⟩

end Formula.CommandLine
