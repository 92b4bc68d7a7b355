import Mathlib.Data.List.Nodup
import RemoteBatch.Job.SpecJson
import RemoteBatch.Proofs.ReadBack
import RemoteBatch.Proofs.Success

/-!
# Settled specifications

A specification that was written down and read back has lost its part of a second and
asks for a node at least; it is *settled*, and nothing else of it has changed.  What the
reader gives is settled already, however its text was spelt, so that writing it and
reading it again changes nothing any more.

Each codec below is read back on its own: the whole numbers, the items of a list, the
entries of an environment, and a field of a record by its name.

## Main results

* `Document.whole?_ofNat` — a number that 64 bits hold is read back.
* `Document.exists_fields?_record` — a record has the fields that it was written with.
* `JobSpec.ofText?_text` — a written specification is read back settled.
* `JobSpec.settled_of_ofText?` — what is read is settled.
* `JobSpec.kept_as_text` — both together: what is kept as text.
-/

namespace RemoteBatch

open Json (Document Fields Number Numeral)

namespace Json

/-! ### Numbers -/

/-- More digits do not make a number smaller. -/
theorem le_ofDigitChars (n : Nat) (cs : List Char) : n ≤ Nat.ofDigitChars 10 cs n := by
  rw [Nat.ofDigitChars_eq_ofDigitChars_zero]
  have hpow : 1 ≤ 10 ^ cs.length := Nat.one_le_pow _ _ (by decide)
  exact Nat.le_trans (Nat.le_mul_of_pos_left n hpow) (Nat.le_add_right _ _)

/-- Digits whose value 64 bits hold are all taken. -/
theorem absorb_eq_ofDigitChars {n : Nat} {cs : List Char}
    (h : Nat.ofDigitChars 10 cs n < UInt64.size) :
    absorb n cs = (Nat.ofDigitChars 10 cs n, cs.length) := by
  induction cs generalizing n with
  | nil => rfl
  | cons c cs ih =>
    rw [Nat.ofDigitChars_cons, Nat.mul_comm] at h ⊢
    have hnext : n * 10 + (c.toNat - 48) < UInt64.size :=
      Nat.lt_of_le_of_lt (le_ofDigitChars _ cs) h
    have hrest : absorb (n * 10 + (c.toNat - 48)) cs = _ := ih h
    rw [absorb, if_pos hnext, hrest]
    rfl

/-- A whole number without a sign is the value of its digits, if 64 bits hold it. -/
theorem Number.ofNumeral?_of_whole {numeral : Numeral} (unsigned : numeral.negative = false)
    (whole : numeral.fraction = none) (plain : numeral.exponent = none)
    (h : Nat.ofDigitChars 10 numeral.whole 0 < UInt64.size) :
    Number.ofNumeral? numeral = some (.natural (Nat.ofDigitChars 10 numeral.whole 0)) := by
  simp [Number.ofNumeral?, absorb_eq_ofDigitChars h, unsigned, whole, plain]

theorem Number.ofNumeral?_ofNat {n : Nat} (h : n < UInt64.size) :
    Number.ofNumeral? (Numeral.ofNat n) = some (.natural n) := by
  have hvalue : Nat.ofDigitChars 10 (Numeral.ofNat n).whole 0 = n := Nat.ofDigitChars_ten_toDigits
  have hread : Number.ofNumeral? (Numeral.ofNat n) = some (.natural (Nat.ofDigitChars 10 _ 0)) :=
    Number.ofNumeral?_of_whole rfl rfl rfl (by rwa [hvalue])
  rwa [hvalue] at hread

namespace Document

theorem whole?_ofNat {n bound : Nat} (h : n < bound) (hbound : bound ≤ UInt64.size) :
    (ofNat n).whole? bound = some n := by
  have hvalue := Number.ofNumeral?_ofNat (Nat.lt_of_lt_of_le h hbound)
  simp only [whole?, ofNat, hvalue, if_pos h]

/-! ### Records -/

theorem distinctFields_record {names : List String} {members : List (String × Document)}
    (hnames : members.map (·.1) = names) (distinct : names.Nodup) :
    distinctFields names (members.map fun (key, d) => (some key, d)) = true := by
  have hone : ∀ name, (members.filter ((·.1 == some name) ∘
      fun ((key, d) : String × Document) => (some key, d))).length ≤ 1 := by
    intro name
    have hcount := List.nodup_iff_count_le_one.mp distinct name
    rwa [← hnames, List.count, List.countP_map, List.countP_eq_length_filter] at hcount
  simp [distinctFields, List.filter_map, hone]

/-- **A record has the fields that it was written with.** -/
theorem exists_fields?_record (names : List String) (members : List (String × Document))
    (hnames : members.map (·.1) = names) (distinct : names.Nodup) :
    ∃ fields, (record members).fields? names = some fields
      ∧ ∀ m ∈ members, fields m.1 = some m.2 := by
  have hfields : (record members).fields? names = some
      (lookup · (members.map fun (key, d) => (some key, d))) :=
    if_pos (distinctFields_record hnames distinct)
  refine ⟨_, hfields, fun m hm => field_of_mem hfields ?_ ?_⟩
  · exact hnames ▸ List.mem_map_of_mem hm
  · exact List.mem_map_of_mem (f := fun (key, d) => (some key, d)) hm

end Document

/-- An optional value is read back, if no value is written as `null`. -/
theorem Fields.optional_ofOption {fields : Fields} {name : String} {a? : Option α}
    {f : Document → Option α} {g : α → Document}
    (h : fields name = some (Document.ofOption g a?)) (hread : ∀ a, f (g a) = some a)
    (hnull : ∀ a, g a ≠ .null) : fields.optional name f = some a? := by
  cases a? with
  | none => simp [Fields.optional, h, Document.ofOption]
  | some a =>
    rw [Fields.optional, h, Document.ofOption]
    split
    · next hnone => exact nomatch hnone
    · next hd => exact absurd (Option.some.inj hd) (hnull a)
    · next hd => rw [← Option.some.inj hd, hread, Option.map_some]

end Json

/-! ### The parts of a specification -/

theorem word32?_ofWord32 (n : UInt32) : word32? (ofWord32 n) = some n := by
  rw [word32?, ofWord32, Document.whole?_ofNat n.toNat_lt (by decide), Option.map_some,
    UInt32.ofNat_toNat]

theorem word64?_ofNat (n : UInt64) : word64? (.ofNat n.toNat) = some n := by
  rw [word64?, Document.whole?_ofNat n.toNat_lt (Nat.le_refl _), Option.map_some,
    UInt64.ofNat_toNat]

theorem text?_ofText (s : String) : (Document.ofText s).text? = some s := rfl

/-- An environment is read back with its keys in order. -/
theorem environment?_ofEnvironment (m : SortedMap String) :
    environment? (ofEnvironment m) = some m := by
  have hentry : ∀ e : String × String, entry? (some e.1, Document.ofText e.2) = some e :=
    fun _ => rfl
  have hentries := mapM_map_eq_some hentry m.entries
  rw [ofEnvironment, Document.record, environment?, List.map_map]
  exact (congrArg (Option.map SortedMap.ofList) hentries).trans
    (congrArg some (SortedMap.ofList_entries m))

namespace Resources

theorem isWritten_toDocument (r : Resources) : r.toDocument.isWritten = true := by
  have hword : ∀ n, (ofWord32 n).isWritten = true := fun n => Document.isWritten_ofNat n.toNat
  refine Document.isWritten_record fun m hm => ?_
  simp only [List.mem_cons, List.not_mem_nil, or_false] at hm
  rcases hm with rfl | rfl | rfl
  · exact hword r.nodeCount
  · exact Document.isWritten_ofOption hword _
  · exact Document.isWritten_ofOption hword _

theorem ofDocument?_toDocument (r : Resources) : ofDocument? r.toDocument = some r.raised := by
  obtain ⟨fields, hfields, hfield⟩ :=
    Document.exists_fields?_record fieldNames
      [("node_count", ofWord32 r.nodeCount),
       ("processes_per_node", .ofOption ofWord32 r.processesPerNode),
       ("gpus_per_node", .ofOption ofWord32 r.gpusPerNode)] rfl (by decide)
  simp only [List.forall_mem_cons] at hfield
  obtain ⟨hnodes, hprocesses, hgpus, -⟩ := hfield
  have hnull : ∀ n, ofWord32 n ≠ .null := fun _ => Document.noConfusion
  rw [ofDocument?, toDocument, hfields, Option.bind_eq_bind, Option.bind_some,
    Fields.withDefault_of_some hnodes, word32?_ofWord32,
    Fields.optional_ofOption hprocesses word32?_ofWord32 hnull,
    Fields.optional_ofOption hgpus word32?_ofWord32 hnull]
  rfl

/-- What is read asks for a node at least. -/
theorem raised_of_ofDocument? {d : Document} {r : Resources} (h : ofDocument? d = some r) :
    r.raised = r := by
  simp only [ofDocument?, Option.bind_eq_bind, Option.bind_eq_some_iff, Option.some.injEq] at h
  obtain ⟨_, _, nodes, _, processes, _, gpus, _, rfl⟩ := h
  exact raised_raised _

end Resources

/-! ### Specifications -/

namespace JobSpec

theorem isWritten_toDocument (spec : JobSpec) : spec.toDocument.isWritten = true := by
  refine Document.isWritten_record fun m hm => ?_
  simp only [List.mem_cons, List.not_mem_nil, or_false] at hm
  rcases hm with rfl | rfl | rfl | rfl | rfl | rfl | rfl
  · exact Document.isWritten_ofOption Document.isWritten_ofText _
  · exact Document.isWritten_ofText _
  · exact Document.areWritten_map Document.isWritten_ofText _
  · exact Document.isWritten_ofOption (fun (d : Directory) => Document.isWritten_ofText d.path) _
  · refine Document.isWritten_record fun e he => ?_
    obtain ⟨entry, -, rfl⟩ := List.mem_map.mp he
    exact Document.isWritten_ofText _
  · exact Document.isWritten_ofNat _
  · exact spec.resources.isWritten_toDocument

theorem ofDocument?_toDocument (spec : JobSpec) :
    ofDocument? spec.toDocument = some spec.settled := by
  obtain ⟨fields, hfields, hfield⟩ :=
    Document.exists_fields?_record fieldNames
      [("name", .ofOption .ofText spec.name),
       ("executable", .ofText spec.executable),
       ("arguments", .array (spec.arguments.map .ofText)),
       ("directory", .ofOption (fun d => .ofText d.path) spec.directory),
       ("environment", ofEnvironment spec.environment),
       ("duration", .ofNat spec.duration.seconds.toNat),
       ("resources", spec.resources.toDocument)] rfl (by decide)
  simp only [List.forall_mem_cons] at hfield
  obtain ⟨hname, hexecutable, harguments, hdirectory, henvironment, hduration, hresources, -⟩ :=
    hfield
  -- the fields are read in the order of the reader, each by the lemma about its kind
  have hlist : Document.list? Document.text? (.array (spec.arguments.map .ofText))
      = some spec.arguments := mapM_map_eq_some text?_ofText spec.arguments
  rw [ofDocument?, toDocument, hfields, Option.bind_eq_bind, Option.bind_some,
    Fields.optional_ofOption hname text?_ofText fun _ => Document.noConfusion,
    Fields.required_of_some hexecutable, text?_ofText,
    Fields.withDefault_of_some harguments, hlist,
    Fields.optional_ofOption hdirectory (fun _ => rfl) fun _ => Document.noConfusion,
    Fields.withDefault_of_some henvironment, environment?_ofEnvironment,
    Fields.withDefault_of_some hduration, word64?_ofNat,
    Fields.withDefault_of_some hresources, Resources.ofDocument?_toDocument]
  rfl

/-- **A written specification is read back settled.** -/
theorem ofText?_text (spec : JobSpec) : ofText? spec.text = some spec.settled := by
  rw [ofText?, text, Document.ofString?_toText spec.isWritten_toDocument, Option.bind_some,
    ofDocument?_toDocument]

theorem settled_of_ofDocument? {d : Document} {spec : JobSpec} (h : ofDocument? d = some spec) :
    spec.settled = spec := by
  simp only [ofDocument?, Option.bind_eq_bind, Option.bind_eq_some_iff, Option.some.injEq] at h
  obtain ⟨_, -, _, -, _, -, _, -, _, -, _, -, duration, hduration, resources, hresources, rfl⟩ := h
  -- settling changes two fields only, and each of them was read by its own reader
  have hseconds : duration.wholeSeconds = duration := by
    rcases Fields.of_withDefault hduration with rfl | ⟨d, hd⟩
    · rfl
    · obtain ⟨seconds, -, rfl⟩ := Option.map_eq_some_iff.mp hd
      rfl
  have hnodes : resources.raised = resources := by
    rcases Fields.of_withDefault hresources with rfl | ⟨d, hd⟩
    · decide
    · exact Resources.raised_of_ofDocument? hd
  simp only [settled, hseconds, hnodes]

/-- **What is read is settled**, however it was spelt. -/
theorem settled_of_ofText? {s : String} {spec : JobSpec} (h : ofText? s = some spec) :
    spec.settled = spec := by
  obtain ⟨d, -, hd⟩ := Option.bind_eq_some_iff.mp h
  exact settled_of_ofDocument? hd

/-- **What is kept of a specification as text.**  A specification is read back with whole
seconds and a node at least and otherwise as it was; and one that was read from a text,
in any spelling, is read back as it is and written again as the same text. -/
theorem kept_as_text :
    (∀ spec : JobSpec, ofText? spec.text = some
      { spec with
        duration := .ofSeconds spec.duration.seconds
        resources := { spec.resources with nodeCount := max spec.resources.nodeCount 1 } }) ∧
    ∀ (s : String) (spec : JobSpec), ofText? s = some spec →
      ofText? spec.text = some spec ∧ (ofText? spec.text).map text = some spec.text := by
  refine ⟨ofText?_text, fun s spec h => ?_⟩
  have hback : ofText? spec.text = some spec :=
    (ofText?_text spec).trans (congrArg some (settled_of_ofText? h))
  exact ⟨hback, by rw [hback, Option.map_some]⟩

/-- A text whose specification is written in another way: with its fields in another order,
blanks, escapes, a field that no specification has, a variable given twice and no node. -/
def respelt : String :=
  "\x7b\"x\": [1.5e3, \"\\ud800\"], \"resources\": \x7b\"node_count\": 0\x7d, "
    ++ "\"executable\": \"/\\u0062in\", \"duration\": 90, "
    ++ "\"environment\": \x7b\"B\": \"1\", \"A\": \"\\n\", \"B\": \"2\"\x7d\x7d"

/-- What is read from it. -/
def respeltSpec : JobSpec :=
  { executable := "/bin", environment := .ofList [("A", "\n"), ("B", "2")],
    duration := .ofSeconds 90 }

theorem kept_as_text_respelt :
    ofText? respelt = some respeltSpec ∧ ofText? respeltSpec.text = some respeltSpec
      ∧ respeltSpec.text ≠ respelt :=
  have h : ofText? respelt = some respeltSpec := by decide +kernel
  ⟨h, (kept_as_text.2 respelt respeltSpec h).1, by decide +kernel⟩

end JobSpec

end RemoteBatch
