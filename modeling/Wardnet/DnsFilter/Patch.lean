import Wardnet.DnsFilter.Coherence

/-!
# Rebuilding one profile

A rebuild of a profile stores into the cells of its blocklists, into the cell
of its allowlist and rules, and into its own cell.  Whatever other profiles
refer to is left alone, and the profile comes out with the content the tables
give it.
-/

namespace Wardnet.Filter

open Heap List

/-! ## Stores into cells -/

section Stores

variable {cells : Cells} {id other : Uuid} {content : Content}

theorem Linked.storeBlocklist (hlinked : Linked cells) (id : Uuid)
    (filter : DnsFilter) : Linked (cells.storeBlocklist id filter) where
  blocklists := hlinked.blocklists.put id filter
  aux := hlinked.aux.of_put cells.blocklistFilters id filter
  profiles := hlinked.profiles
  apart := hlinked.apart.link hlinked.aux id

theorem Linked.storeAux (hlinked : Linked cells) (id : Uuid)
    (filter : DnsFilter) : Linked (cells.storeAux id filter) where
  blocklists := hlinked.blocklists.of_put cells.profileAuxFilters id filter
  aux := hlinked.aux.put id filter
  profiles := hlinked.profiles
  apart := (hlinked.apart.symm.link hlinked.blocklists id).symm

theorem Linked.storeProfile (hlinked : Linked cells) (id : Uuid)
    (filters : List Cell) : Linked (cells.storeProfile id filters) :=
  { hlinked with
    profiles := hlinked.profiles.put id filters }

end Stores

/-! ## Rebuilding the filters of a profile -/

/-- What rebuilding the filters of one profile can change: its own cells, and
the cells of its blocklists. -/
structure Patch (tables : Tables) (profileId : Uuid) (cells after : Cells) : Prop where
  linked : Linked cells → Linked after
  serves : Linked cells → ∀ id content, id ≠ profileId → (∀ entry ∈ content.blocklists,
      ∀ blocklist ∈ tables.listBlocklists profileId, entry.1 ≠ blocklist.id) →
    Serves cells id content → Serves after id content
  profiles : ∀ id, id ≠ profileId → after.profiles.get id = cells.profiles.get id

section Patches

variable {tables : Tables} {profileId : Uuid} {first cells after : Cells}

theorem Patch.refl (tables : Tables) (profileId : Uuid) (cells : Cells) :
    Patch tables profileId cells cells where
  linked := id
  serves := fun _ _ _ _ _ => id
  profiles := fun _ _ => rfl

theorem Patch.trans (hfirst : Patch tables profileId first cells)
    (hsecond : Patch tables profileId cells after) : Patch tables profileId first after where
  linked := fun hlinked => hsecond.linked (hfirst.linked hlinked)
  serves := fun hlinked id content hne hapart hserves =>
    hsecond.serves (hfirst.linked hlinked) id content hne hapart
      (hfirst.serves hlinked id content hne hapart hserves)
  profiles := fun id hne => (hsecond.profiles id hne).trans (hfirst.profiles id hne)

variable {blocklist : Blocklist}

theorem patch_storeAux (cells : Cells) (filter : DnsFilter) :
    Patch tables profileId cells (cells.storeAux profileId filter) :=
  { Patch.refl tables profileId cells with
    linked := fun hlinked => hlinked.storeAux profileId filter
    serves := by
      intro hlinked id content hne _ hserves
      have hcells : (cells.storeAux profileId filter).filtersOf id content =
          cells.filtersOf id content := by
        refine congrArg (fun cell => _ ++ Option.toList cell) ?_
        exact (get_link ..).trans (if_neg hne)
      refine ⟨fun entry hentry => ?_, Holds.put_ne hserves.aux hlinked.aux hne filter, ?_⟩
      · exact Holds.put_apart (hserves.blocklists entry hentry) hlinked.aux hlinked.blocklists
          hlinked.apart.symm profileId filter
      · rw [hcells]
        exact hserves.profile }

theorem patch_storeProfile (cells : Cells) (filters : List Cell) :
    Patch tables profileId cells (cells.storeProfile profileId filters) :=
  { Patch.refl tables profileId cells with
    linked := fun hlinked => hlinked.storeProfile profileId filters
    serves := fun hlinked _ _ hne _ hserves =>
      { hserves with profile := Holds.put_ne hserves.profile hlinked.profiles hne filters }
    profiles := fun _ hne => (get_link ..).trans (if_neg hne) }

/-- Dropping a profile that is gone. -/
theorem patch_remove (cells : Cells) :
    Patch tables profileId cells (cells.removeProfile profileId) :=
  { Patch.refl tables profileId cells with
    linked := fun hlinked =>
      { blocklists := hlinked.blocklists
        aux := hlinked.aux.remove profileId
        profiles := hlinked.profiles.remove profileId
        apart := (hlinked.apart.symm.remove profileId).symm }
    serves := by
      intro hlinked id content hne hapart hserves
      have haux : (cells.profileAuxFilters.remove profileId).get id =
          cells.profileAuxFilters.get id :=
        (HashMap.get_remove ..).trans (if_neg hne)
      have hprofile : (cells.profiles.remove profileId).get id = cells.profiles.get id :=
        (HashMap.get_remove ..).trans (if_neg hne)
      refine ⟨hserves.blocklists, ?_, ?_⟩
      · simp only [Holds, Cells.removeProfile, haux]
        exact hserves.aux
      · simp only [Holds, Cells.removeProfile, Cells.filtersOf, haux, hprofile]
        exact hserves.profile
    profiles := fun _ hne => (HashMap.get_remove ..).trans (if_neg hne) }

theorem rebuildBlocklistInner_of_mem (hwell : tables.WellFormed)
    (hmem : blocklist ∈ tables.listBlocklists profileId) (cells : Cells) :
    rebuildBlocklistInner tables cells blocklist.id =
      cells.storeBlocklist blocklist.id blocklist.compile := by
  unfold rebuildBlocklistInner
  have hfound : tables.getBlocklist blocklist.id = some blocklist :=
    Table.find_of_mem hwell.blocklistIds (mem_of_mem_filter hmem)
  rw [hfound]

variable {blocklists : List Blocklist}

theorem patch_rebuildBlocklists (hwell : tables.WellFormed)
    (hmem : ∀ blocklist ∈ blocklists, blocklist ∈ tables.listBlocklists profileId) (cells : Cells) :
    Patch tables profileId cells (rebuildBlocklists tables cells blocklists) := by
  induction blocklists generalizing cells with
  | nil => exact .refl tables profileId cells
  | cons blocklist blocklists ih =>
    have hhead := hmem blocklist (mem_cons_self ..)
    have hfirst :
        Patch tables profileId cells (rebuildBlocklistInner tables cells blocklist.id) := by
      rw [rebuildBlocklistInner_of_mem hwell hhead]
      exact { Patch.refl tables profileId cells with
        linked := fun hlinked => hlinked.storeBlocklist blocklist.id _
        serves := by
          intro hlinked id content _ hapart hserves
          have hother : ∀ entry ∈ content.blocklists, entry.1 ≠ blocklist.id :=
            fun entry hentry => hapart entry hentry blocklist hhead
          have hcells : (cells.storeBlocklist blocklist.id blocklist.compile).filtersOf id content =
              cells.filtersOf id content := by
            refine congrArg (· ++ _) (filterMap_congr fun entry hentry => ?_)
            exact (get_link ..).trans (if_neg (hother entry hentry))
          refine ⟨fun entry hentry => ?_, ?_, ?_⟩
          · exact Holds.put_ne (hserves.blocklists entry hentry) hlinked.blocklists
              (hother entry hentry) _
          · exact Holds.put_apart hserves.aux hlinked.blocklists hlinked.aux hlinked.apart _ _
          · rw [hcells]
            exact hserves.profile }
    exact hfirst.trans (ih (fun other hother => hmem other (mem_cons_of_mem _ hother)) _)

/-- After the rebuild every blocklist's cell holds its filter. -/
theorem holds_rebuildBlocklists (hwell : tables.WellFormed)
    (hmem : ∀ blocklist ∈ blocklists, blocklist ∈ tables.listBlocklists profileId) {cells : Cells}
    (hlinked : Linked cells)
    (hheld : blocklist ∈ blocklists ∨ Holds cells.filterHeap cells.blocklistFilters blocklist.id
        blocklist.compile) (hlisted : blocklist ∈ tables.listBlocklists profileId) :
    Holds (rebuildBlocklists tables cells blocklists).filterHeap
      (rebuildBlocklists tables cells blocklists).blocklistFilters
      blocklist.id blocklist.compile := by
  induction blocklists generalizing cells with
  | nil =>
    rcases hheld with hnone | hheld
    · cases hnone
    · exact hheld
  | cons head blocklists ih =>
    have hhead := hmem head (mem_cons_self ..)
    have hrest : ∀ other ∈ blocklists, other ∈ tables.listBlocklists profileId :=
      fun other hother => hmem other (mem_cons_of_mem _ hother)
    unfold rebuildBlocklists
    rw [foldl_cons, rebuildBlocklistInner_of_mem hwell hhead]
    refine ih hrest (hlinked.storeBlocklist _ _) ?_
    by_cases hsame : blocklist.id = head.id
    · have heq := inj_on_of_nodup_map hwell.blocklistIds (mem_of_mem_filter hlisted)
        (mem_of_mem_filter hhead) hsame
      exact .inr (heq ▸ holds_put hlinked.blocklists _ _)
    · rcases hheld with hmemCons | hheld
      · rcases mem_cons.mp hmemCons with rfl | hmemRest
        · exact absurd rfl hsame
        · exact .inl hmemRest
      · exact .inr (Holds.put_ne hheld hlinked.blocklists hsame _)

/-- With all enabled blocklists at hand none is built on demand. -/
theorem collectFilters_of_held
    (hheld : ∀ blocklist ∈ blocklists, (cells.blocklistFilters.get blocklist.id).isSome) :
    collectFilters tables cells blocklists = (cells, (blocklists.filter Blocklist.enabled).filterMap
        fun blocklist => cells.blocklistFilters.get blocklist.id) := by
  induction blocklists with
  | nil => rfl
  | cons blocklist blocklists ih =>
    have hhead := hheld blocklist (mem_cons_self ..)
    have hrest := ih fun other hother => hheld other (mem_cons_of_mem _ hother)
    obtain ⟨cell, hcell⟩ := Option.isSome_iff_exists.mp hhead
    cases henabled : blocklist.enabled <;> simp [collectFilters, henabled, hcell, hrest]

end Patches

section RebuildProfile

variable {parsers : Parsers} {tables : Tables} {profileId : Uuid} {cells : Cells}

section

variable (hwell : tables.WellFormed)
include hwell

theorem held_rebuildBlocklists (hlinked : Linked cells) :
    ∀ blocklist ∈ tables.listBlocklists profileId, Holds (rebuildBlocklists tables cells
          (tables.listBlocklists profileId)).filterHeap (rebuildBlocklists tables cells
          (tables.listBlocklists profileId)).blocklistFilters blocklist.id blocklist.compile :=
  fun _ hmem => holds_rebuildBlocklists hwell (fun _ => id) hlinked (.inl hmem) hmem

/-- The rebuild of a profile: its content is stored, or it is dropped. -/
theorem rebuildProfileFilters_cases (hlinked : Linked cells) :
    let built := rebuildBlocklists tables cells (tables.listBlocklists profileId)
    let aux := built.storeAux profileId (auxFilter parsers tables profileId)
    (tables.hasProfile profileId = true ∧ rebuildProfileFilters parsers tables cells profileId =
        aux.storeProfile profileId (((tables.listBlocklists profileId).filter
            Blocklist.enabled).filterMap (fun blocklist =>
              built.blocklistFilters.get blocklist.id) ++
            (aux.profileAuxFilters.get profileId).toList)) ∨
    (tables.hasProfile profileId = false ∧ rebuildProfileFilters parsers tables cells profileId =
        built.removeProfile profileId) := by
  unfold rebuildProfileFilters
  cases hprofile : tables.hasProfile profileId with
  | true =>
    obtain ⟨profile, hfound⟩ := Option.isSome_iff_exists.mp hprofile
    refine .inl ⟨rfl, ?_⟩
    rw [rebuildProfileInner, hfound]
    dsimp only
    rw [collectFilters_of_held]
    · rfl
    · intro blocklist hmem
      obtain ⟨cell, hcell, -⟩ := held_rebuildBlocklists hwell hlinked blocklist hmem
      simp [Cells.storeAux, hcell]
  | false =>
    refine .inr ⟨rfl, ?_⟩
    unfold rebuildProfileInner
    rw [Option.not_isSome_iff_eq_none.mp (Bool.eq_false_iff.mp hprofile)]

/-- The rebuild of a profile touches no other profile. -/
theorem patch_rebuildProfileFilters (hlinked : Linked cells) :
    Patch tables profileId cells (rebuildProfileFilters parsers tables cells profileId) := by
  have hblocklists : Patch tables profileId cells
      (rebuildBlocklists tables cells (tables.listBlocklists profileId)) :=
    patch_rebuildBlocklists hwell (fun _ => id) cells
  rcases rebuildProfileFilters_cases hwell hlinked with
    ⟨-, hstored⟩ | ⟨-, hdropped⟩
  · rw [hstored]
    exact hblocklists.trans ((patch_storeAux _ _).trans (patch_storeProfile _ _))
  · rw [hdropped]
    exact hblocklists.trans (patch_remove _)

/-- After its rebuild a profile is served with the content of the tables. -/
theorem servesProfile_rebuildProfileFilters (hlinked : Linked cells) :
    ServesProfile (rebuildProfileFilters parsers tables cells profileId)
      profileId (tables.content parsers profileId) := by
  have hheld := @held_rebuildBlocklists tables profileId cells hwell hlinked
  have hbuilt : Linked (rebuildBlocklists tables cells (tables.listBlocklists profileId)) :=
    (patch_rebuildBlocklists hwell (fun _ => id) cells).linked hlinked
  rcases rebuildProfileFilters_cases hwell hlinked with
    ⟨hprofile, hstored⟩ | ⟨hprofile, hdropped⟩
  · rw [hstored, Tables.content, if_pos hprofile]
    refine ⟨?_, holds_put hbuilt.aux _ _, ?_⟩
    · intro entry hentry
      obtain ⟨blocklist, hmem, rfl⟩ := mem_map.mp hentry
      exact Holds.put_apart (hheld blocklist (mem_of_mem_filter hmem))
        hbuilt.aux hbuilt.blocklists hbuilt.apart.symm _ _
    · simp only [Cells.filtersOf, filterMap_map]
      exact holds_put hbuilt.profiles profileId _
  · rw [hdropped, Tables.content, hprofile]
    simp [ServesProfile, Cells.removeProfile]

end

end RebuildProfile

end Wardnet.Filter
