import LogTable.Disk

/-!
# What is written can be read

A file that stands at a path can be changed, and what the path leads to then is the file with the change:
`file?_put`. The directories on the way to it stay as they are (`node?_put_of_ne`), so the same way leads to it
again (`walk_put`). Wherever something is put, no other file is found (`eq_of_file?_put`), and none where it is
removed (`file?_remove`).
-/
namespace LogTable.Disk

theorem file?_eq_some_iff {d : Disk} {path : String} {file : File} :
    d.file? path = some file ↔ d.read path = .ok (.file file) := by
  unfold file?
  split
  · rename_i f h
    rw [h]
    simp
  · rename_i h
    constructor
    · intro h'; cases h'
    · intro h'; exact absurd h' (h file)

/-! ## The way to a file -/

theorem lookup_filter_ne {parts other : List String} (h : other ≠ parts) (entries : List (List String × Node)) :
    (entries.filter fun e => e.1 ≠ parts).lookup other = entries.lookup other := by
  induction entries with
  | nil => rfl
  | cons e entries ih =>
    obtain ⟨key, node⟩ := e
    by_cases hk : key = parts
    · subst hk
      have hne : (other == key) = false := beq_eq_false_iff_ne.2 h
      simp only [List.filter_cons, ne_eq, not_true_eq_false, decide_false, Bool.false_eq_true, if_false,
        List.lookup_cons, hne]
      exact ih
    · simp only [List.filter_cons, ne_eq, hk, not_false_eq_true, decide_true, if_true, List.lookup_cons]
      rw [← ih]

theorem node?_put_self (d : Disk) (path : String) (n : Node) : (d.put path n).node? (Path.parts path) = some n := by
  simp [node?, put]

/-- On the way to a file that is put, directories stay directories. -/
theorem node?_put_of_ne {d : Disk} {path : String} {parts : List String} (n : Node)
    (hne : parts ≠ Path.parts path) (hpre : parts <+: Path.parts path)
    (hdir : d.node? parts = some .directory) : (d.put path n).node? parts = some .directory := by
  have hself : (parts == Path.parts path) = false := by simpa using hne
  have hlookup : (d.put path n).entries.lookup parts = d.entries.lookup parts := by
    simp only [put, erase, List.lookup_cons, hself]
    exact lookup_filter_ne hne d.entries
  unfold node? at hdir ⊢
  rw [hlookup]
  split at hdir
  · exact hdir
  · have hany : (d.put path n).entries.any (fun e => parts.isPrefixOf e.1) = true := by
      simp only [put, List.any_cons, List.isPrefixOf_iff_prefix.2 hpre, Bool.true_or]
    rw [hany]
    simp

/-- The induction is on the parts still to be walked. -/
theorem walk_put {d : Disk} {path : String} {f : File} (g : File) (rest : List String) (at' : List String)
    (hparts : at' ++ rest = Path.parts path) (h : d.walk at' rest = .ok (.file f)) :
    (d.put path (.file g)).walk at' rest = .ok (.file g) := by
  induction rest generalizing at' with
  | nil =>
    rw [List.append_nil] at hparts
    simp only [walk, hparts, node?_put_self]
  | cons part rest ih =>
    unfold walk at h ⊢
    split at h
    · rename_i hdir
      have hne : at' ≠ Path.parts path := by
        intro he
        rw [← hparts] at he
        simp at he
      rw [node?_put_of_ne (.file g) hne ⟨_, hparts⟩ hdir]
      exact ih (at' ++ [part]) (by simpa using hparts) h
    · cases h
    · cases h

/-- A path leads to what stands at the end of its parts. -/
theorem node?_of_walk {d : Disk} {at' rest : List String} {n : Node} (h : d.walk at' rest = .ok n) :
    d.node? (at' ++ rest) = some n := by
  induction rest generalizing at' with
  | nil =>
    unfold walk at h
    split at h
    · rename_i m hm
      rw [List.append_nil, hm]
      exact congrArg some (Except.ok.inj h)
    · cases h
  | cons part rest ih =>
    unfold walk at h
    split at h
    · simpa using ih h
    · cases h
    · cases h

theorem read_file_iff {d : Disk} {path : String} {file : File} :
    d.read path = .ok (.file file) ↔
      path ≠ "" ∧ d.walk [] (Path.parts path) = .ok (.file file) ∧ Path.isInto path = false := by
  unfold read
  by_cases hp : path = ""
  · simp [hp]
  · cases hw : d.walk [] (Path.parts path) with
    | error cause => simp [hp, bind, Except.bind]
    | ok node =>
      cases node with
      | directory => simp [hp, bind, Except.bind, pure, Except.pure]
      | file f =>
        cases hi : Path.isInto path with
        | true => simp [hp, bind, Except.bind, throw, throwThe, MonadExceptOf.throw]
        | false => simp [hp, bind, Except.bind, pure, Except.pure]

/-! ## Changes of a file -/

/-- Where a file stands another can be put, and is there then. -/
theorem file?_put {d : Disk} {path : String} {f : File} (h : d.file? path = some f) (g : File) :
    (d.put path (.file g)).file? path = some g := by
  rw [file?_eq_some_iff, read_file_iff] at h ⊢
  exact ⟨h.1, walk_put g _ [] rfl h.2.1, h.2.2⟩

theorem node?_of_file? {d : Disk} {path : String} {f : File} (h : d.file? path = some f) :
    d.node? (Path.parts path) = some (.file f) := by
  rw [file?_eq_some_iff, read_file_iff] at h
  exact node?_of_walk h.2.1

/-- Whatever was put at a path, no other file is there. -/
theorem eq_of_file?_put {d : Disk} {path : String} {n : Node} {f : File} (h : (d.put path n).file? path = some f) :
    n = .file f := by
  have hnode := node?_of_file? h
  rw [node?_put_self] at hnode
  exact Option.some.inj hnode

theorem file?_remove (d : Disk) (path : String) : (d.remove path).file? path = none := by
  cases h : (d.remove path).file? path with
  | none => rfl
  | some f =>
    have hnode := node?_of_file? h
    have hlookup : (d.remove path).entries.lookup (Path.parts path) = none := by
      simp only [remove, erase, List.lookup_eq_none_iff, List.mem_filter, decide_eq_true_eq]
      intro e he
      simpa using fun heq => he.2 heq.symm
    unfold node? at hnode
    rw [hlookup] at hnode
    simp only at hnode
    split at hnode <;> cases hnode

theorem file?_append {d : Disk} {path : String} {f : File} (h : d.file? path = some f) (bytes : List UInt8) :
    (d.append path bytes).file? path = some { f with bytes := f.bytes ++ bytes, modified := d.clock } := by
  unfold append change
  rw [h]
  exact file?_put h _

theorem file?_writeStamped {d : Disk} {path : String} {f : File} (h : d.file? path = some f)
    (bytes : List UInt8) (modified : Int) :
    (d.writeStamped path bytes modified).file? path = some ⟨d.clock, bytes, modified⟩ :=
  file?_put h _

end LogTable.Disk
