import DepView.Proofs.ArtifactNames
import DepView.Proofs.SourceDiscovery

/-!
The names of dumps. They tell the source and the kind of a dump, and no language has one of their
suffixes. So among the sources at a path, all dumps and all sources have different names, and no
dump is taken for a source.
-/

namespace DepView

open Text Store

/-- The endings by which the dumps of a source differ. -/
def dumpEndings : List Text :=
  [".txt".toList, ".json".toList, ".dot".toList]

/-- The name of a dump of a source. -/
def dumpName (source : Path) (ending : Text) : Text :=
  source.name ++ Artifact.treeMarker ++ ending

namespace TreeFiles

/-- The files of the dumps. -/
def paths (files : TreeFiles) : List Path :=
  [files.textPath, files.jsonPath, files.dotPath]

theorem paths_of (source directory : Path) : (TreeFiles.of source directory).paths =
    dumpEndings.map fun ending => inside directory (dumpName source ending) :=
  rfl

theorem mem_paths_of {source directory p : Path} :
    p ∈ (TreeFiles.of source directory).paths ↔
      ∃ ending ∈ dumpEndings, p = inside directory (dumpName source ending) := by
  simp only [paths_of, List.mem_map, eq_comm]

end TreeFiles

/-- A name is cut before its last dot if there is something on both sides. -/
theorem splitName_append {stem ending : Text} (hstem : stem ≠ []) (hending : ending ≠ [])
    (hdot : '.' ∉ ending) : Path.splitName (stem ++ '.' :: ending) = (stem, '.' :: ending) := by
  have hpiece : lastPiece (· == '.') (stem ++ '.' :: ending) = ending := by
    have hplain : ∀ c ∈ ending, (c == '.') = false := fun c hc =>
      beq_false_of_ne fun heq => hdot (heq ▸ hc)
    have happend : stem ++ '.' :: ending = (stem ++ ['.']) ++ ending := by simp
    rw [happend]
    exact lastPiece_append hplain (by simp)
  have hlength : (stem ++ '.' :: ending).length - ending.length - 1 = stem.length := by
    simp only [List.length_append, List.length_cons]
    omega
  have hshort : ending.length < stem.length + (ending.length + 1) := by omega
  unfold Path.splitName
  simp only [hpiece, hlength, List.take_left]
  simp [hstem, hending, hshort]

/-- The name of a dump is told apart into the source and the ending. -/
theorem splitName_dumpName (source : Path) {ending : Text} (h : ending ∈ dumpEndings) :
    Path.splitName (dumpName source ending) =
      (source.name ++ Artifact.treeMarker, ending) := by
  have hstem : source.name ++ Artifact.treeMarker ≠ [] := by simp [Artifact.treeMarker]
  have hparts : ∃ tail, ending = '.' :: tail ∧ tail ≠ [] ∧ '.' ∉ tail := by
    simp only [dumpEndings, List.mem_cons, List.not_mem_nil, or_false] at h
    rcases h with rfl | rfl | rfl <;> exact ⟨_, rfl, by decide, by decide⟩
  obtain ⟨tail, rfl, htail, hdot⟩ := hparts
  exact splitName_append hstem htail hdot

theorem dumpName_inj {x y : Path} {a b : Text} (ha : a ∈ dumpEndings) (hb : b ∈ dumpEndings)
    (h : dumpName x a = dumpName y b) : x.name = y.name ∧ a = b := by
  have hsplit := congrArg Path.splitName h
  rw [splitName_dumpName x ha, splitName_dumpName y hb] at hsplit
  obtain ⟨hstem, hending⟩ := Prod.mk.inj hsplit
  exact ⟨List.append_cancel_right hstem, hending⟩

theorem notMem_suffixesFor (language : Text) {ending : Text} (h : ending ∈ dumpEndings) :
    lower ending ∉ suffixesFor language := by
  have htable : ∀ l ∈ languages, ∀ ending ∈ dumpEndings,
      lower ending ∉ l.suffixes.map String.toList := by decide
  unfold suffixesFor
  split
  · rename_i l hl
    exact htable l (List.mem_of_find?_eq_some hl) ending h
  · exact List.not_mem_nil

namespace Sources

/-- No dump is taken for a source. -/
theorem isNamedFor_dump (language : Text) (source directory : Path) {p : Path}
    (h : p ∈ (TreeFiles.of source directory).paths) : isNamedFor language p = false := by
  obtain ⟨ending, hending, rfl⟩ := TreeFiles.mem_paths_of.mp h
  have hsuffix : (inside directory (dumpName source ending)).suffix = ending := by
    rw [Path.suffix, name_inside, splitName_dumpName source hending]
  rw [isNamedFor, hsuffix]
  simpa using notMem_suffixesFor language hending

/-- Sources with names of their own, none of which is that of a dump. -/
structure Separate (sources : List Path) : Prop where
  names : (sources.map Path.name).Nodup
  apart : ∀ x ∈ sources, ∀ y ∈ sources, ∀ ending ∈ dumpEndings, x.name ≠ dumpName y ending

theorem Separate.sublist {some all : List Path} (h : Separate all) (hsome : some.Sublist all) :
    Separate some where
  names := h.names.sublist (hsome.map Path.name)
  apart x hx y hy := h.apart x (hsome.subset hx) y (hsome.subset hy)

/-- All files of the dumps of some sources. -/
def dumpPaths (directory : Path) (sources : List Path) : List Path :=
  sources.flatMap fun source => (TreeFiles.of source directory).paths

theorem mem_dumpPaths {directory p : Path} {sources : List Path} :
    p ∈ dumpPaths directory sources ↔
      ∃ source ∈ sources, p ∈ (TreeFiles.of source directory).paths :=
  List.mem_flatMap

theorem names_dumpPaths (directory : Path) (sources : List Path) :
    (dumpPaths directory sources).map Path.name =
      sources.flatMap fun source => dumpEndings.map (dumpName source) := by
  unfold dumpPaths
  rw [List.map_flatMap]
  refine congrArg (List.flatMap · sources) (funext fun source => ?_)
  simp [TreeFiles.paths_of, name_inside, Function.comp_def]

theorem nodup_dumpNames {sources : List Path} (h : (sources.map Path.name).Nodup) :
    (sources.flatMap fun source => dumpEndings.map (dumpName source)).Nodup := by
  induction sources with
  | nil => exact List.nodup_nil
  | cons x xs ih =>
    obtain ⟨hx, hxs⟩ := List.nodup_cons.mp h
    have hendings : dumpEndings.Nodup := by decide
    rw [List.flatMap_cons]
    refine List.nodup_append.mpr ⟨?_, ih hxs, fun name hname other hother heq => hx ?_⟩
    · refine List.pairwise_map.mpr (hendings.imp_of_mem fun ha hb hne heq => hne ?_)
      exact (dumpName_inj ha hb heq).2
    · obtain ⟨a, ha, rfl⟩ := List.mem_map.mp hname
      obtain ⟨y, hy, hother⟩ := List.mem_flatMap.mp hother
      obtain ⟨b, hb, rfl⟩ := List.mem_map.mp hother
      rw [(dumpName_inj ha hb heq).1]
      exact List.mem_map_of_mem hy

/-- The dumps and the sources all have different names. -/
theorem Separate.nodup_names {sources : List Path} (h : Separate sources) (directory : Path) :
    ((dumpPaths directory sources ++ sources).map Path.name).Nodup := by
  rw [List.map_append, names_dumpPaths]
  refine List.nodup_append.mpr ⟨nodup_dumpNames h.names, h.names, fun name hname other hother => ?_⟩
  obtain ⟨y, hy, hname⟩ := List.mem_flatMap.mp hname
  obtain ⟨ending, hending, rfl⟩ := List.mem_map.mp hname
  obtain ⟨x, hx, rfl⟩ := List.mem_map.mp hother
  exact (h.apart x hx y hy ending hending).symm

section

variable {s t : Store} {source : Path} {language : Text} {sources : List Path}

/-- A source can be read. In a directory, it has a suffix of the language. -/
theorem mem_of_discover (h : discover s source language = .ok sources) {x : Path}
    (hx : x ∈ sources) : (∃ bytes, s.read x = .ok bytes) ∧
      (sources = [x] ∨ isNamedFor language x = true) := by
  rcases discover_eq_ok.mp h with ⟨hfile, rfl⟩ | ⟨⟨directory, hlocate, _⟩, hin⟩
  · obtain rfl := List.mem_singleton.mp hx
    exact ⟨isFile_eq_true.mp hfile, Or.inl rfl⟩
  · obtain ⟨_, rfl⟩ := (sourcesIn_eq_ok hlocate).mp hin
    obtain ⟨_, hsource⟩ := List.mem_filter.mp hx
    obtain ⟨hfile, hnamed⟩ : s.isFile x = .ok true ∧ isNamedFor language x = true := by
      simpa [isSource] using hsource
    exact ⟨isFile_eq_true.mp hfile, Or.inr hnamed⟩

theorem nodup_names_of_discover (hs : s.places.Nodup)
    (h : discover s source language = .ok sources) : (sources.map Path.name).Nodup := by
  rcases discover_eq_ok.mp h with ⟨_, rfl⟩ | ⟨⟨directory, hlocate, _⟩, hin⟩
  · exact List.pairwise_singleton _ _
  · obtain ⟨_, rfl⟩ := (sourcesIn_eq_ok hlocate).mp hin
    have hall : (((inOrder (s.namesIn directory)).map (inside source)).map Path.name).Nodup := by
      rw [List.map_map]
      have hname : Path.name ∘ inside source = id := funext fun name => name_inside source name
      rw [hname, List.map_id]
      exact (List.mergeSort_perm _ _).nodup_iff.mpr (nodup_namesIn hs directory)
    exact hall.sublist (List.filter_sublist.map Path.name)

/-- The sources at a path are separate. -/
theorem separate_of_discover (hs : s.places.Nodup)
    (h : discover s source language = .ok sources) : Separate sources where
  names := nodup_names_of_discover hs h
  apart x hx y hy ending hending heq := by
    rcases (mem_of_discover h hx).2 with rfl | hnamed
    · obtain rfl := List.mem_singleton.mp hy
      have hlength := congrArg List.length heq
      simp [dumpName, Artifact.treeMarker] at hlength
    · have hdump : isNamedFor language x = false := by
        rw [isNamedFor, Path.suffix, heq, splitName_dumpName y hending]
        simpa using notMem_suffixesFor language hending
      cases hnamed.symm.trans hdump

/-- Paths that lead to different files. -/
def LeadApart (s : Store) (paths : List Path) : Prop :=
  paths.Pairwise fun p q => ∀ place, s.locate p = .ok place → s.locate q ≠ .ok place

/-- Files with different names are different files. -/
theorem leadApart_of_names (hs : s.Unlinked) {paths : List Path}
    (hread : ∀ p ∈ paths, ∃ bytes, s.read p = .ok bytes) (hnames : (paths.map Path.name).Nodup) :
    LeadApart s paths := by
  refine (List.pairwise_map.mp hnames).imp_of_mem fun hp hq hne place hplace hsame => hne ?_
  obtain ⟨bytes, hbytes⟩ := hread _ hp
  obtain ⟨other, hother, hentry⟩ := read_eq_ok.mp hbytes
  obtain rfl := Except.ok.inj (hother.symm.trans hplace)
  exact hs.name_eq hplace hsame (by simp [hentry])

end

end Sources

end DepView
