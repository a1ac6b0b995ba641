import DepView.Proofs.PathWalks
import Mathlib.Data.List.Perm.Subperm

/-!
Resolving a path. `reach` ends at a place without links, and then every way along the path leads
there, or it is stuck at a link that leads back to itself, and then nobody gets along. For this it
has to be known that there are enough links to follow, and that a link cannot be followed inside
of itself to an end. What is found at a resolved place is found without a link, unless double dots
are left behind the link where resolving is stuck.
-/

namespace DepView.Store

theorem walk_head {s : Store} {links : Nat} {place reached : Place} {name : Text}
    {names : List Text} (h : s.walk links true place (name :: names) = .ok reached) :
    ∃ between, s.walk links true place [name] = .ok between :=
  have hwalk : s.walk links true place ([name] ++ names) = .ok reached := h
  walk_prefix hwalk

/-- A place whose way says neither links nor dots. -/
structure IsReal (s : Store) (place : Place) : Prop where
  unlinked : ∀ before, before <+: place → ∀ target, s.entry? before ≠ some (.link target)
  names : ∀ name ∈ place, IsName name

namespace IsReal

variable {s : Store} {place : Place}

theorem nil (s : Store) : s.IsReal [] where
  unlinked before hbefore target := by
    rw [s.grounded_nil before hbefore]
    simp
  names name hname := absurd hname List.not_mem_nil

theorem dropLast (h : s.IsReal place) : s.IsReal place.dropLast where
  unlinked _ hbefore := h.unlinked _ (hbefore.trans (List.dropLast_prefix place))
  names _ hname := h.names _ (List.dropLast_subset place hname)

theorem concat (h : s.IsReal place) {name : Text} (hname : IsName name)
    (hlink : ∀ target, s.entry? (place ++ [name]) ≠ some (.link target)) :
    s.IsReal (place ++ [name]) where
  unlinked before hbefore := by
    rcases List.prefix_concat_iff.mp hbefore with rfl | hbefore
    · exact hlink
    · exact h.unlinked before hbefore
  names other hother := by
    rcases List.mem_append.mp hother with hother | hother
    · exact h.names other hother
    · rwa [List.mem_singleton.mp hother]

theorem linkStart (h : s.IsReal place) (target : Text) : s.IsReal (linkStart place target) := by
  unfold Store.linkStart
  split
  · exact nil s
  · exact h

end IsReal

/-- Every way along some names goes on along others, with the same end behind them. -/
def GoesOn (s : Store) (place : Place) (names : List Text) (start : Place) (steps : List Text) :
    Prop :=
  ∀ links more goal, s.walk links true place (names ++ more) = .ok goal →
    ∃ fewer ≤ links, s.walk fewer true start (steps ++ more) = .ok goal

namespace GoesOn

variable {s : Store} {place start : Place} {name : Text} {names steps : List Text}

theorem of_eq (h : ∀ links more, s.walk links true place (names ++ more) =
    s.walk links true start (steps ++ more)) : s.GoesOn place names start steps :=
  fun links more _ hgoal => ⟨links, Nat.le_refl links, (h links more) ▸ hgoal⟩

theorem past (hname : IsName name)
    (hlink : ∀ target, s.entry? (place ++ [name]) ≠ some (.link target)) :
    s.GoesOn place (name :: names) (place ++ [name]) names :=
  fun links _ _ hgoal => ⟨links, Nat.le_refl links, walk_of_not_link hname hlink hgoal⟩

theorem plain (h : s.GoesOn place names start steps) {links : Nat} {goal : Place}
    (hgoal : s.walk links true place names = .ok goal) :
    ∃ fewer ≤ links, s.walk fewer true start steps = .ok goal := by
  simpa using h links [] goal (by rwa [List.append_nil])

end GoesOn

/-! Links that are followed one inside the other. -/

/-- There are no more links than entries that are links. -/
theorem length_le_linkCount {s : Store} {places : List Place} (hnodup : places.Nodup)
    (hlinks : ∀ place ∈ places, ∃ target, s.entry? place = some (.link target)) :
    places.length ≤ s.linkCount := by
  unfold linkCount
  rw [← List.length_map Prod.fst]
  apply (List.subperm_of_subset hnodup _).length_le
  intro place hplace
  obtain ⟨target, htarget⟩ := hlinks place hplace
  exact List.mem_map_of_mem (List.mem_filter.mpr ⟨mem_entries_of_link htarget, rfl⟩)

/-- The links that are being followed are all different, and there are enough for the rest. -/
structure Chased (s : Store) (depth : Nat) (followed : List Place) : Prop where
  depth : s.linkCount < depth + followed.length
  nodup : followed.Nodup
  links : ∀ link ∈ followed, ∃ target, s.entry? link = some (.link target)

namespace Chased

variable {s : Store} {depth : Nat} {followed : List Place} {place : Place} {target : Text}

theorem initial (s : Store) : s.Chased (s.linkCount + 1) [] where
  depth := by simp
  nodup := List.nodup_nil
  links _ h := absurd h List.not_mem_nil

/-- A link that is not being followed can be followed. -/
theorem depth_ne_zero (h : s.Chased depth followed) (hnew : place ∉ followed)
    (hlink : s.entry? place = some (.link target)) : depth ≠ 0 := by
  have hcount := length_le_linkCount (List.nodup_cons.mpr ⟨hnew, h.nodup⟩)
    (List.forall_mem_cons.mpr ⟨⟨target, hlink⟩, h.links⟩)
  have hdepth := h.depth
  simp only [List.length_cons] at hcount
  omega

theorem enter (h : s.Chased (depth + 1) followed) (hnew : place ∉ followed)
    (hlink : s.entry? place = some (.link target)) : s.Chased depth (place :: followed) where
  depth := by
    have hdepth := h.depth
    simp only [List.length_cons]
    omega
  nodup := List.nodup_cons.mpr ⟨hnew, h.nodup⟩
  links := List.forall_mem_cons.mpr ⟨⟨target, hlink⟩, h.links⟩

end Chased

/-- What is known of the links that are being followed while some names are still to go: who
gets to the end of one of them gets to the end of these names, with fewer links. -/
structure Following (s : Store) (depth : Nat) (followed : List Place) (place : Place)
    (names : List Text) : Prop where
  chased : s.Chased depth followed
  pending : ∀ before name, before ++ [name] ∈ followed → ∀ links goal,
    s.walk links true before [name] = .ok goal →
      ∃ fewer < links, ∃ reached, s.walk fewer true place names = .ok reached

namespace Following

variable {s : Store} {depth : Nat} {followed : List Place} {place start : Place} {name : Text}
  {names steps : List Text}

/-- At the start no link is being followed. -/
theorem initial (s : Store) (place : Place) (names : List Text) :
    s.Following (s.linkCount + 1) [] place names where
  chased := .initial s
  pending _ _ h := absurd h List.not_mem_nil

theorem step (h : s.Following depth followed place names) (hon : s.GoesOn place names start steps) :
    s.Following depth followed start steps where
  chased := h.chased
  pending before name hlink links goal hgoal := by
    obtain ⟨fewer, hlt, reached, hreached⟩ := h.pending before name hlink links goal hgoal
    obtain ⟨least, hle, hleast⟩ := hon.plain hreached
    exact ⟨least, Nat.lt_of_le_of_lt hle hlt, reached, hleast⟩

/-- No link is followed inside of itself without end. -/
theorem walk_ne_ok (h : s.Following depth followed place (name :: names))
    (hlink : place ++ [name] ∈ followed) (links : Nat) (goal : Place) :
    s.walk links true place [name] ≠ .ok goal := by
  induction links using Nat.strongRecOn generalizing goal with
  | ind links ih =>
    intro hgoal
    obtain ⟨fewer, hlt, reached, hreached⟩ := h.pending place name hlink links goal hgoal
    obtain ⟨between, hbetween⟩ := walk_head hreached
    exact ih fewer hlt between hbetween

theorem enter (h : s.Following (depth + 1) followed place (name :: names)) (hname : IsName name)
    {target : Text} (hlink : s.entry? (place ++ [name]) = some (.link target))
    (hnew : place ++ [name] ∉ followed) :
    s.Following depth ((place ++ [name]) :: followed) (linkStart place target)
      (Path.stepsOf target) where
  chased := h.chased.enter hnew hlink
  pending before other hmem links goal hgoal := by
    -- Both for the new link and for those before it, a way through the new one goes on along
    -- its target.
    have henter : ∀ links goal more, s.walk links true place (name :: more) = .ok goal →
        ∃ fewer < links, ∃ reached,
          s.walk fewer true (linkStart place target) (Path.stepsOf target) = .ok reached := by
      intro links goal more hwalk
      obtain ⟨fewer, rfl, hfewer⟩ := walk_of_link hname hlink hwalk
      exact ⟨fewer, Nat.lt_succ_self fewer, walk_prefix hfewer⟩
    rcases List.mem_cons.mp hmem with heq | hmem
    · obtain ⟨rfl, hlast⟩ := List.append_inj' heq rfl
      obtain rfl : other = name := by simpa using hlast
      exact henter links goal [] hgoal
    · obtain ⟨fewer, hlt, reached, hreached⟩ := h.pending before other hmem links goal hgoal
      obtain ⟨least, hle, last, hlast⟩ := henter fewer reached names hreached
      exact ⟨least, Nat.lt_trans hle hlt, last, hlast⟩

end Following

/-- Names are resolved to a place without links, and all ways along them lead there. -/
structure Settles (s : Store) (place : Place) (names : List Text) (reached : Place) : Prop where
  real : s.IsReal reached
  leads : ∀ links more goal, s.walk links true place (names ++ more) = .ok goal →
    ∃ fewer ≤ links, s.walk fewer true reached more = .ok goal

/-- Names are resolved up to a link that nobody gets to the end of. -/
structure Sticks (s : Store) (place : Place) (names : List Text) (left : Place) : Prop where
  endless : ∃ before name rest, left = before ++ name :: rest ∧ s.IsReal before ∧ IsName name ∧
    ∀ links goal, s.walk links true before [name] ≠ .ok goal
  nowhere : ∀ links goal, s.walk links true place names ≠ .ok goal

def Ends (s : Store) (place : Place) (names : List Text) : Place × Bool → Prop
  | (reached, true) => s.Settles place names reached
  | (left, false) => s.Sticks place names left

theorem Ends.step {s : Store} {place start : Place} {names steps : List Text}
    {result : Place × Bool} (hon : s.GoesOn place names start steps)
    (h : s.Ends start steps result) : s.Ends place names result := by
  obtain ⟨reached, settled⟩ := result
  cases settled with
  | true =>
    refine ⟨h.real, fun links more goal hgoal => ?_⟩
    obtain ⟨fewer, hle, hfewer⟩ := hon links more goal hgoal
    obtain ⟨least, hle', hleast⟩ := h.leads fewer more goal hfewer
    exact ⟨least, Nat.le_trans hle' hle, hleast⟩
  | false =>
    refine ⟨h.endless, fun links goal hgoal => ?_⟩
    obtain ⟨fewer, _, hfewer⟩ := hon.plain hgoal
    exact h.nowhere fewer goal hfewer

/-- Resolving names ends at a place without links, or at a link that leads back to itself. -/
theorem reach_ends {s : Store} {depth : Nat} {followed : List Place} {place : Place}
    {names : List Text} (h : s.Following depth followed place names) (hreal : s.IsReal place) :
    s.Ends place names (s.reach depth followed place names) := by
  fun_induction reach s depth followed place names with
  | case1 depth followed place =>
    exact ⟨hreal, fun links more goal hgoal => ⟨links, Nat.le_refl links, hgoal⟩⟩
  | case2 depth followed place names ih =>
    have hon : s.GoesOn place (['.'] :: names) place names := .of_eq fun _ _ => walk_dot
    exact (ih (h.step hon) hreal).step hon
  | case3 depth followed place names _ ih =>
    have hon : s.GoesOn place (['.', '.'] :: names) place.dropLast names :=
      .of_eq fun _ _ => walk_dots
    exact (ih (h.step hon) hreal.dropLast).step hon
  | case4 depth followed place name names hdot hdots target hlink hfollowed =>
    have hendless := h.walk_ne_ok (List.contains_iff_mem.mp hfollowed)
    refine ⟨⟨place, name, names, rfl, hreal, ⟨hdot, hdots⟩, hendless⟩, fun links goal hgoal => ?_⟩
    obtain ⟨between, hbetween⟩ := walk_head hgoal
    exact hendless links between hbetween
  | case5 followed place name names hdot hdots target hlink hfollowed =>
    -- With all links followed already, this one is among them.
    have hnew := mt List.contains_iff_mem.mpr hfollowed
    exact absurd rfl (h.chased.depth_ne_zero hnew hlink)
  | case6 followed place name names hdot hdots target hlink hfollowed depth start between hreach
      ihLink ih =>
    have hnew := mt List.contains_iff_mem.mpr hfollowed
    have hends := ihLink (h.enter ⟨hdot, hdots⟩ hlink hnew) (hreal.linkStart target)
    rw [hreach] at hends
    have hon : s.GoesOn place (name :: names) between names := by
      intro links more goal hgoal
      obtain ⟨fewer, rfl, hfewer⟩ := walk_of_link ⟨hdot, hdots⟩ hlink hgoal
      obtain ⟨least, hle, hleast⟩ := hends.leads fewer (names ++ more) goal hfewer
      exact ⟨least, Nat.le_succ_of_le hle, hleast⟩
    exact (ih (h.step hon) hends.real).step hon
  | case7 followed place name names hdot hdots target hlink hfollowed depth start between hreach
      ihLink =>
    have hnew := mt List.contains_iff_mem.mpr hfollowed
    have hends := ihLink (h.enter ⟨hdot, hdots⟩ hlink hnew) (hreal.linkStart target)
    rw [hreach] at hends
    obtain ⟨before, other, rest, rfl, hbefore⟩ := hends.endless
    refine ⟨⟨before, other, rest ++ names, by simp, hbefore⟩, fun links goal hgoal => ?_⟩
    obtain ⟨fewer, rfl, hfewer⟩ := walk_of_link ⟨hdot, hdots⟩ hlink hgoal
    obtain ⟨last, hlast⟩ := walk_prefix hfewer
    exact hends.nowhere fewer last hlast
  | case8 depth followed place name names hdot hdots hlink ih =>
    have hlink : ∀ target, s.entry? (place ++ [name]) ≠ some (.link target) := hlink
    have hon : s.GoesOn place (name :: names) (place ++ [name]) names := .past ⟨hdot, hdots⟩ hlink
    exact (ih (h.step hon) (hreal.concat ⟨hdot, hdots⟩ hlink)).step hon

/-! What is found at a resolved place. -/

/-- The names of a place without links lead to it. -/
theorem IsReal.goesOn {s : Store} {before rest : Place} (h : s.IsReal (before ++ rest)) :
    s.GoesOn before rest (before ++ rest) [] := by
  induction rest generalizing before with
  | nil =>
    rw [List.append_nil]
    exact .of_eq fun _ _ => rfl
  | cons name rest ih =>
    rw [List.append_cons] at h ⊢
    have hname : IsName name := h.names name (by simp)
    have hlink : ∀ target, s.entry? (before ++ [name]) ≠ some (.link target) :=
      h.unlinked _ (List.prefix_append _ rest)
    exact fun links more goal hgoal =>
      ih h links more goal (walk_of_not_link hname hlink hgoal)

theorem IsReal.goesOn_nil {s : Store} {place : Place} (h : s.IsReal place) :
    s.GoesOn [] place place [] :=
  have hreal : s.IsReal ([] ++ place) := h
  hreal.goesOn

theorem withoutDots_eq_filter {place : Place} (h : ['.', '.'] ∉ place) :
    withoutDots place = place.filter (· ≠ ['.']) := by
  have hkept : ∀ kept : Place, place.foldl (fun kept name =>
      if name = ['.'] then kept
      else if name = ['.', '.'] then kept.dropLast
      else kept ++ [name]) kept = kept ++ place.filter (· ≠ ['.']) := by
    induction place with
    | nil => simp
    | cons name place ih =>
      obtain ⟨hname, hplace⟩ := List.ne_and_not_mem_of_not_mem_cons h
      intro kept
      rw [List.foldl_cons, ih hplace]
      by_cases hdot : name = ['.'] <;> simp [hdot, hname.symm]
  exact hkept []

/-- Whether double dots are left behind a link that leads back to itself. -/
def TurnsBack (s : Store) (p : Path) : Prop :=
  ['.', '.'] ∈ (s.reach (s.linkCount + 1) [] (s.startOf p) p.parts).1

/-- A path leads to a place, if anywhere, and there are no links on the way to that place. -/
structure IsHome (s : Store) (p : Path) (place : Place) : Prop where
  real : s.IsReal place
  only : ∀ goal, s.locate p = .ok goal → goal = place

section

variable {s : Store} {p : Path} {place goal : Place} {entry : Entry}

theorem find_toPath_eq_ok : s.find place.toPath = .ok entry ↔
    ∃ goal, s.locate place.toPath = .ok goal ∧ s.entry? goal = some entry := by
  unfold find
  cases s.locate place.toPath with
  | error fault => simp [bind, Except.bind]
  | ok goal =>
    simp only [bind, Except.bind, Except.ok.injEq, exists_eq_left']
    cases s.entry? goal <;> simp [throw, throwThe, MonadExceptOf.throw, pure, Except.pure]

theorem IsReal.eq_of_locate (h : s.IsReal place) (hgoal : s.locate place.toPath = .ok goal) :
    goal = place := by
  obtain ⟨_, _, hwalk⟩ := h.goesOn_nil.plain (locate_eq_ok.mp hgoal).2
  rw [walk] at hwalk
  exact (Except.ok.inj hwalk).symm

/-- Nothing is found where resolving is stuck. -/
theorem Sticks.locate_ne_ok {start : Place} {names : List Text} (h : s.Sticks start names place)
    (hdots : ['.', '.'] ∉ place) : s.locate (withoutDots place).toPath ≠ .ok goal := by
  obtain ⟨before, name, rest, rfl, hbefore, hname, hendless⟩ := h.endless
  intro hgoal
  have hkept : withoutDots (before ++ name :: rest) =
      before ++ ([name] ++ rest.filter (· ≠ ['.'])) := by
    have hnames : before.filter (· ≠ ['.']) = before :=
      List.filter_eq_self.mpr fun other hother => by simp [(hbefore.names other hother).1]
    rw [withoutDots_eq_filter hdots, List.filter_append, hnames, List.filter_cons_of_pos]
    · rfl
    · simp [hname.1]
  rw [hkept] at hgoal
  obtain ⟨links, _, hwalk⟩ := hbefore.goesOn_nil _ _ _ (locate_eq_ok.mp hgoal).2
  obtain ⟨between, hbetween⟩ := walk_head hwalk
  exact hendless links between hbetween

/-- Whatever is found at a resolved place is found there without a link. -/
theorem isHome_of_find (habsolute : p.isAbsolute = true) (hturn : ¬ s.TurnsBack p)
    (hfind : s.find (s.reachFrom (s.startOf p) p.parts).toPath = .ok entry) :
    s.IsHome p (s.reachFrom (s.startOf p) p.parts) ∧
      s.entry? (s.reachFrom (s.startOf p) p.parts) = some entry := by
  have hstart : s.startOf p = [] := if_pos habsolute
  have hends := reach_ends (Following.initial s (s.startOf p) p.parts) (hstart ▸ IsReal.nil s)
  obtain ⟨goal, hgoal, hentry⟩ := find_toPath_eq_ok.mp hfind
  unfold reachFrom TurnsBack at *
  generalize s.reach (s.linkCount + 1) [] (s.startOf p) p.parts = result at *
  obtain ⟨place, settled⟩ := result
  cases settled with
  | false => exact absurd hgoal (Sticks.locate_ne_ok hends hturn)
  | true =>
    have hplace : withoutDots place = place := by
      rw [withoutDots_eq_filter hturn]
      exact List.filter_eq_self.mpr fun other hother => by simp [(hends.real.names other hother).1]
    simp only [hplace] at *
    obtain rfl := hends.real.eq_of_locate hgoal
    refine ⟨⟨hends.real, fun last hlast => ?_⟩, hentry⟩
    obtain ⟨fewer, _, hwalk⟩ := hends.leads 40 [] last (by
      rw [List.append_nil]
      exact (locate_eq_ok.mp hlast).2)
    rw [walk] at hwalk
    exact (Except.ok.inj hwalk).symm

end

end DepView.Store
