import PageShell.Proofs.Dictionary
import PageShell.Proofs.Toml.Lines
import PageShell.Settings.Toml

/-!
# Written documents are read back

Entries with different keys are added to a table in their order, at the root
or under a header. A dictionary is written with every key once, so its text is
read back as the dictionary.

* `Table.put_of_get?_eq_none` — a new key comes last;
* `foldlM_add_entries` — **entries with different keys are all kept**;
* `dictionary?_writeEntries` — **reading a written dictionary gives the
  dictionary**.
-/

namespace PageShell

namespace Toml

namespace Table

theorem get?_eq_none_of_notMem {t : Table} {key : Text} (h : key ∉ t.map Prod.fst) :
    t.get? key = none := by
  refine List.lookup_eq_none_iff.2 fun p hp => bne_iff_ne.2 ?_
  rintro rfl
  exact h (List.mem_map_of_mem hp)

/-- What stands under another key is passed over. -/
theorem put_append {t : Table} {key : Text} (h : t.get? key = none) (node : Node) (rest : Table) :
    put key node (t ++ rest) = t ++ put key node rest := by
  induction t with
  | nil => rfl
  | cons p t ih =>
    obtain ⟨k, n⟩ := p
    rw [get?, List.lookup_cons] at h
    split at h
    · cases h
    · next hne =>
      have hne : ¬k = key := fun heq => beq_eq_false_iff_ne.1 hne heq.symm
      rw [List.cons_append, put, if_neg hne, ih h]
      rfl

/-- A new key comes last. -/
theorem put_of_get?_eq_none {t : Table} {key : Text} (h : t.get? key = none) (node : Node) :
    t.put key node = t ++ [(key, node)] := by
  have happend := put_append h node []
  rwa [List.append_nil] at happend

/-- What stands under the last key is replaced. -/
theorem put_append_singleton {t : Table} {key : Text} (h : t.get? key = none) (node node' : Node) :
    put key node' (t ++ [(key, node)]) = t ++ [(key, node')] := by
  rw [put_append h, put, if_pos rfl]

/-- What stands under the last key is found. -/
theorem get?_append_singleton {t : Table} {key : Text} (h : t.get? key = none) (node : Node) :
    get? (t ++ [(key, node)]) key = some node := by
  rw [get?, List.lookup_append, ← get?, h, Option.none_or, List.lookup_cons_self]

end Table

/-- **Entries with different keys are all kept**, in their order, wherever one entry with a new key
is added at the end. -/
theorem foldlM_add_entries {build : Table → Builder}
    (hadd : ∀ t key v, t.get? key = none →
      (build t).add (.entry (.single key) v) = some (build (t ++ [(key, v)])))
    (t entries : Table) (h : ((t ++ entries).map Prod.fst).Nodup) :
    (entries.map fun p => Statement.entry (.single p.1) p.2).foldlM Builder.add (build t) =
      some (build (t ++ entries)) := by
  induction entries generalizing t with
  | nil => rw [List.append_nil]; rfl
  | cons p entries ih =>
    have hnew : t.get? p.1 = none := by
      refine Table.get?_eq_none_of_notMem fun hmem => ?_
      rw [List.map_append] at h
      exact (List.nodup_append.1 h).2.2 _ hmem _ List.mem_cons_self rfl
    rw [List.append_cons] at h ⊢
    rw [List.map_cons, List.foldlM_cons, hadd t p.1 p.2 hnew]
    exact ih _ h

theorem add_entry_root {t : Table} {key : Text} (h : t.get? key = none) (v : Node) :
    Builder.add ⟨t, []⟩ (.entry (.single key) v) = some ⟨t ++ [(key, v)], []⟩ := by
  rw [Builder.add, Table.under, KeyPath.single, Table.insertDotted, h, Table.put_of_get?_eq_none h]
  rfl

theorem add_entry_under {t inner : Table} {header key : Text} {origin : Origin}
    (hheader : t.get? header = none) (h : inner.get? key = none) (v : Node) :
    Builder.add ⟨t ++ [(header, .table origin inner)], [header]⟩ (.entry (.single key) v) =
      some ⟨t ++ [(header, .table origin (inner ++ [(key, v)]))], [header]⟩ := by
  have hinner : Table.insertDotted key v [] inner = some (inner ++ [(key, v)]) := by
    rw [Table.insertDotted, h, Table.put_of_get?_eq_none h]
    rfl
  simp only [Builder.add, KeyPath.single, Table.under, Table.get?_append_singleton hheader, hinner,
    Option.map_some, Table.put_append_singleton hheader]

/-- The table of a dictionary: a string under every key. -/
def tableOf (d : Dictionary) : Table :=
  d.toList.map fun p => (p.1, .text p.2)

theorem keys_tableOf (d : Dictionary) : (tableOf d).map Prod.fst = d.toList.map Prod.fst := by
  rw [tableOf, List.map_map]
  rfl

/-- The strings of the table of a dictionary make up the dictionary. -/
theorem dictionary?_tableOf (d : Dictionary) : Table.dictionary? (tableOf d) = some d := by
  have hpairs : ∀ pairs : List (Text × Text),
      (pairs.map fun p => (p.1, Node.text p.2)).mapM
        (fun entry : Text × Node => entry.2.text?.map (entry.1, ·)) = some pairs := by
    intro pairs
    induction pairs with
    | nil => rfl
    | cons p pairs ih =>
      rw [List.map_cons, List.mapM_cons, ih]
      rfl
  rw [Table.dictionary?, tableOf, hpairs, Option.map_some, Dictionary.ofList_toList]

/-- **A written dictionary is read back as its table.** -/
theorem document?_writeEntries (d : Dictionary) :
    document? (writeEntries d) = some (tableOf d) := by
  have htells : statements? (writeEntries d) =
      some ((tableOf d).map fun p => .entry (.single p.1) p.2) := by
    rw [statements?_of_tells (tells_writeEntries d) (head?_writeEntries d), tableOf, List.map_map]
    rfl
  have hkeys : (([] ++ tableOf d).map Prod.fst).Nodup := by
    rw [List.nil_append, keys_tableOf]
    exact d.nodup_keys
  have hadd : ((tableOf d).map fun p => Statement.entry (.single p.1) p.2).foldlM Builder.add
      Builder.start = some ⟨tableOf d, []⟩ :=
    foldlM_add_entries (fun _ _ v h => add_entry_root h v) [] (tableOf d) hkeys
  rw [document?, htells]
  simp only [Option.bind_eq_bind, Option.bind_some, hadd]
  rfl

/-- **Entries with a dictionary under a header after them are read back as one table**, even if the
dictionary is empty. -/
theorem document?_section {written header : Text} {entries : Table}
    (htells : Tells written (entries.map fun p => .entry (.single p.1) p.2))
    (hmark : written.head? ≠ some '\uFEFF')
    (hkeys : (entries.map Prod.fst ++ [header]).Nodup) (d : Dictionary) :
    document? (written ++ ['\n'] ++ writeHeader header ++ writeEntries d) =
      some (entries ++ [(header, .table .header (tableOf d))]) := by
  obtain ⟨hentries, -, hheader⟩ := List.nodup_append.1 hkeys
  have hstatements : statements? (written ++ ['\n'] ++ writeHeader header ++ writeEntries d) =
      some ((entries.map fun p => .entry (.single p.1) p.2) ++ [.nothing] ++
        [.header (.single header)] ++ (tableOf d).map fun p => .entry (.single p.1) p.2) := by
    refine statements?_of_tells ?_ ?_
    · have hpairs := tells_writeEntries d
      rw [tableOf, List.map_map]
      exact ((htells.append tells_emptyLine).append (tells_writeHeader header)).append hpairs
    · cases written with
      | nil => exact fun h => absurd (Option.some.inj h) (by decide)
      | cons c cs => exact hmark
  have hnone : Table.get? entries header = none :=
    Table.get?_eq_none_of_notMem fun hmem => hheader _ hmem _ List.mem_cons_self rfl
  have hroot : (entries.map fun p => Statement.entry (.single p.1) p.2).foldlM Builder.add
      Builder.start = some ⟨entries, []⟩ :=
    foldlM_add_entries (fun _ _ v h => add_entry_root h v) [] entries hentries
  have hnothing : Builder.add ⟨entries, []⟩ .nothing = some ⟨entries, []⟩ := rfl
  have hopen : Builder.add ⟨entries, []⟩ (.header (.single header)) =
      some ⟨entries ++ [(header, .table .header [])], [header]⟩ := by
    simp only [Builder.add, KeyPath.single, KeyPath.toList, Table.under, Table.openTable, hnone,
      Table.put_of_get?_eq_none hnone, Option.map_some, List.nil_append]
  have hunder : ((tableOf d).map fun p => Statement.entry (.single p.1) p.2).foldlM Builder.add
      ⟨entries ++ [(header, .table .header [])], [header]⟩ =
        some ⟨entries ++ [(header, .table .header (tableOf d))], [header]⟩ := by
    have hpairs : (([] ++ tableOf d).map Prod.fst).Nodup := by
      rw [List.nil_append, keys_tableOf]
      exact d.nodup_keys
    exact foldlM_add_entries (fun _ _ v h => add_entry_under hnone h v) [] (tableOf d) hpairs
  rw [document?, hstatements]
  simp only [Option.bind_eq_bind, Option.bind_some, Option.pure_def, List.foldlM_append,
    List.foldlM_cons, List.foldlM_nil, hroot, hnothing, hopen, hunder]

/-- **Reading a written dictionary gives the dictionary.** -/
theorem dictionary?_writeEntries (d : Dictionary) :
    (document? (writeEntries d)).bind Table.dictionary? = some d := by
  rw [document?_writeEntries, Option.bind_some, dictionary?_tableOf]

end Toml

end PageShell
