import RpcBindings.Proofs.FileTree
import RpcBindings.Proofs.Pieces
import Mathlib.Data.List.Infix
import Mathlib.Data.List.TakeWhile

/-!
# Where paths lead

The steps of a path, the steps of a path to which a name is joined, and the place in the tree of
files at which the last step of a path stands.

## Main definitions

* `Files.route` — the steps of a path.
* `Files.IsName` — a name that is one step of a path.
* `Files.IsUsable` — a path that is not too long, and neither are its names.
* `Files.Unobstructed` — no file stands in the way of a path.

## Main results

* `Files.exists_route_join` — **a name that is joined to a path is the last step** after those of
  the path.
* `Files.target_eq_ok_some_iff`, `Files.Keeps.target` — the place of a path, and that it stays the
  same when nothing is taken away.
* `Files.Unobstructed.entryAt_join` — what is not there below an unobstructed path is missing.
* `Files.isJavaName_of_target` — the file of a module is no Java file.
-/

namespace RpcBindings

open Fallible

namespace Files

open Checkout (isJavaName)
open Entry (Step stepOf file)

variable {files after : Files} {top : Entry} {es : List (String × Entry)}
  {n path directory : String} {here there : List String} {ss : List Step}

/-! ### The steps of a path -/

/-- The steps of a path from where it starts. -/
def route (path : String) : List Step :=
  (Path.segments path).map stepOf

theorem pathFault?_eq_none_iff :
    pathFault? path = none ↔
      '\x00' ∉ path.toList ∧ path ≠ "" ∧ path.utf8ByteSize < pathLimit := by
  unfold pathFault?
  by_cases hzero : '\x00' ∈ path.toList
  · simp [hzero]
  · by_cases hempty : path = ""
    · simp [hempty]
    · simp [hzero, hempty]

theorem steps_eq_ok_iff : steps path = .ok ss ↔ pathFault? path = none ∧ ss = route path := by
  unfold steps
  cases pathFault? path with
  | some f => simp
  | none =>
    rw [Except.ok.injEq]
    exact ⟨fun heq => ⟨rfl, heq.symm⟩, fun h => h.2.symm⟩

/-- What starts a path that can be followed can be followed, unless it is empty. -/
theorem pathFault?_of_start {p : String} (h : pathFault? path = none)
    (hstarts : p.toList <+: path.toList) (hne : p ≠ "") : pathFault? p = none := by
  obtain ⟨hzero, -, hsize⟩ := pathFault?_eq_none_iff.mp h
  obtain ⟨cs, hcs⟩ := hstarts
  have hpath : path = p ++ String.ofList cs := by
    rw [← String.toList_inj, String.toList_append, String.toList_ofList, hcs]
  refine pathFault?_eq_none_iff.mpr ⟨fun hmem => hzero ?_, hne, Nat.lt_of_le_of_lt ?_ hsize⟩
  · rw [← hcs]
    exact List.mem_append_left cs hmem
  · rw [hpath, String.utf8ByteSize_append]
    exact Nat.le_add_right _ _

/-- A name that is one step of a path. -/
structure IsName (n : String) : Prop where
  noSlash : '/' ∉ n.toList
  stepOf_eq : stepOf n.toList = .into n

theorem IsName.isAbsolute (h : IsName n) : Path.isAbsolute n = false := by
  rw [Path.isAbsolute, beq_eq_false_iff_ne]
  intro hhead
  exact h.noSlash (List.mem_of_mem_head? hhead)

theorem isAbsolute_append (h : path ≠ "") (s : String) :
    Path.isAbsolute (path ++ s) = Path.isAbsolute path := by
  have hne : path.toList ≠ [] := fun heq => h (String.toList_inj.mp heq)
  rw [Path.isAbsolute, Path.isAbsolute, String.toList_append, List.head?_append_of_ne_nil _ hne]

theorem join_of_isName (hn : IsName n) (directory : String) :
    Path.join directory n =
      if directory = "" then n
      else if directory.toList.getLast? = some '/' then directory ++ n
      else directory ++ "/" ++ n := by
  rw [Path.join, hn.isAbsolute]
  simp [String.isEmpty_iff]

/-- A path to which a name is joined starts with the path. -/
theorem prefix_join (hn : IsName n) (directory : String) :
    directory.toList <+: (Path.join directory n).toList := by
  rw [join_of_isName hn]
  split
  · next h => simp [h]
  · split
    · rw [String.toList_append]
      exact List.prefix_append _ _
    · rw [String.append_assoc, String.toList_append]
      exact List.prefix_append _ _

/-- The name that is joined to a path stands at its end. -/
theorem suffix_join (base path : String) : path.toList <:+ (Path.join base path).toList := by
  rw [Path.join]
  split
  · exact List.suffix_rfl
  · split
    · rw [String.toList_append]
      exact List.suffix_append _ _
    · rw [String.toList_append]
      exact List.suffix_append _ _

theorem IsName.join_ne_empty (hn : IsName n) (directory : String) :
    Path.join directory n ≠ "" := by
  intro hempty
  have hend := suffix_join directory n
  rw [hempty] at hend
  have hstep := hn.stepOf_eq
  rw [List.suffix_nil.mp hend] at hstep
  cases hstep

/-- A path to which a name is joined can be followed, if it has no zero byte and is not too long. -/
theorem IsName.pathFault?_join (hn : IsName n)
    (hzero : '\x00' ∉ (Path.join directory n).toList)
    (hsize : (Path.join directory n).utf8ByteSize < pathLimit) :
    pathFault? (Path.join directory n) = none :=
  pathFault?_eq_none_iff.mpr ⟨hzero, hn.join_ne_empty directory, hsize⟩

/-- A path to which a name is joined starts where the path does. -/
theorem start_join (hn : IsName n) (files : Files) (directory : String) :
    files.start (Path.join directory n) = files.start directory := by
  have habsolute : Path.isAbsolute (Path.join directory n) = Path.isAbsolute directory := by
    rw [join_of_isName hn]
    split
    · next h => rw [hn.isAbsolute, h]; rfl
    · next h =>
      split
      · exact isAbsolute_append h n
      · rw [String.append_assoc]
        exact isAbsolute_append h _
  rw [start, start, habsolute]

/-- The steps of a path with a slash and a name at its end. -/
theorem route_append {cs : List Char} (hn : IsName n)
    (hpath : path.toList = cs ++ '/' :: n.toList) :
    route path = (Text.splitOn '/' cs).map stepOf ++ [.into n] := by
  rw [route, Path.segments, hpath, Text.splitOn_append_cons, Text.splitOn_of_notMem hn.noSlash,
    List.map_append, List.map_singleton, hn.stepOf_eq]

/-- **A name that is joined to a path is the last step** after those of the path, apart from a
slash at its end. -/
theorem exists_route_join (directory : String) :
    ∃ ds, (route directory = ds ∨ route directory = ds ++ [.stay]) ∧
      ∀ n, IsName n → route (Path.join directory n) = ds ++ [.into n] := by
  by_cases hempty : directory = ""
  · refine ⟨[], .inr (by rw [hempty]; rfl), fun n hn => ?_⟩
    rw [join_of_isName hn, if_pos hempty, route, Path.segments,
      Text.splitOn_of_notMem hn.noSlash, List.map_singleton, hn.stepOf_eq]
    rfl
  · by_cases hslash : directory.toList.getLast? = some '/'
    · obtain ⟨cs, hcs⟩ := List.getLast?_eq_some_iff.mp hslash
      refine ⟨(Text.splitOn '/' cs).map stepOf, .inr ?_, fun n hn => ?_⟩
      · rw [route, Path.segments, hcs, Text.splitOn_append_cons, List.map_append]
        rfl
      · rw [join_of_isName hn, if_neg hempty, if_pos hslash]
        refine route_append hn ?_
        rw [String.toList_append, hcs, List.append_assoc, List.singleton_append]
    · refine ⟨route directory, .inl rfl, fun n hn => ?_⟩
      rw [join_of_isName hn, if_neg hempty, if_neg hslash]
      refine route_append hn ?_
      rw [String.toList_append, String.toList_append, List.append_assoc]
      rfl

/-- A step that stays can be taken only in a directory. -/
theorem follow_concat_stay :
    top.follow here (ss ++ [.stay]) = .ok there ↔
      top.follow here ss = .ok there ∧ ∃ es, top.at? there = some (.directory es) := by
  rw [Entry.follow_concat, bind_eq_ok_iff]
  constructor
  · rintro ⟨mid, hmid, hstay⟩
    obtain ⟨hdirectory, -, rfl⟩ := Entry.next_eq_ok_iff.mp hstay
    exact ⟨hmid, hdirectory⟩
  · rintro ⟨hthere, hdirectory⟩
    exact ⟨there, hthere, Entry.next_eq_ok_iff.mpr ⟨hdirectory, by simp, rfl⟩⟩

/-! ### The place of a path -/

theorem target_eq_ok_some_iff :
    files.target path = .ok (some (here, n)) ↔
      ∃ ss, steps path = .ok (ss ++ [.into n]) ∧
        files.root.follow (files.start path) ss = .ok here := by
  unfold target
  rw [bind_eq_ok_iff]
  constructor
  · rintro ⟨ss, hss, h⟩
    obtain ⟨there, hthere, h⟩ := bind_eq_ok_iff.mp h
    split at h
    · next m hlast =>
      cases h
      obtain ⟨ts, rfl⟩ := List.getLast?_eq_some_iff.mp hlast
      rw [List.dropLast_concat] at hthere
      exact ⟨ts, hss, hthere⟩
    · cases h
  · rintro ⟨ss, hss, hfollow⟩
    refine ⟨_, hss, bind_eq_ok_iff.mpr ⟨here, ?_, ?_⟩⟩
    · rw [List.dropLast_concat, hfollow]
    · rw [List.getLast?_concat]
      rfl

/-- The place of a path stays the same when nothing is taken away. -/
theorem Keeps.target (h : Keeps files after)
    (htarget : files.target path = .ok (some (here, n))) :
    after.target path = .ok (some (here, n)) := by
  obtain ⟨ss, hss, hfollow⟩ := target_eq_ok_some_iff.mp htarget
  refine target_eq_ok_some_iff.mpr ⟨ss, hss, ?_⟩
  rw [h.start]
  exact h.tree.follow hfollow

/-- The place of a name that is joined to a path is in the directory of the path. -/
theorem follow_route_of_target {m : String} (hn : IsName n)
    (h : files.target (Path.join directory n) = .ok (some (here, m)))
    (hes : files.root.at? here = some (.directory es)) :
    m = n ∧ files.root.follow (files.start directory) (route directory) = .ok here := by
  obtain ⟨ss, hss, hfollow⟩ := target_eq_ok_some_iff.mp h
  obtain ⟨-, hroute⟩ := steps_eq_ok_iff.mp hss
  obtain ⟨ds, hds, hjoin⟩ := exists_route_join directory
  rw [hjoin n hn] at hroute
  obtain ⟨rfl, hlast⟩ := List.append_inj' hroute rfl
  rw [start_join hn] at hfollow
  refine ⟨Step.into.inj (List.singleton_inj.mp hlast), ?_⟩
  rcases hds with hds | hds
  · rw [hds, hfollow]
  · rw [hds]
    exact follow_concat_stay.mpr ⟨hfollow, es, hes⟩

/-- What leads to an entry of a directory leads to the directory. -/
theorem exists_directory_of_at?_concat {e : Entry} (h : top.at? (here ++ [n]) = some e) :
    ∃ es, top.at? here = some (.directory es) ∧ es.lookup n = some e := by
  rw [Entry.at?_append] at h
  obtain ⟨d, hd, h⟩ := Option.bind_eq_some_iff.mp h
  obtain ⟨es, rfl⟩ := Entry.exists_directory_of_at? h
  have hlookup := Entry.at?_concat hd n
  rw [Entry.at?_append, hd, Option.bind_some, h] at hlookup
  exact ⟨es, hd, hlookup.symm⟩

/-- A path whose last step is no name has no place of its own. -/
theorem target_eq_ok_none {ts : List Step} {s : Step} (hsteps : steps path = .ok (ts ++ [s]))
    (h : files.root.follow (files.start path) ts = .ok here) (hs : ∀ n, s ≠ .into n) :
    files.target path = .ok none := by
  refine bind_eq_ok_iff.mpr ⟨_, hsteps, bind_eq_ok_iff.mpr ⟨here, ?_, ?_⟩⟩
  · rw [List.dropLast_concat, h]
  · rw [List.getLast?_concat]
    cases s with
    | stay => rfl
    | up => rfl
    | into n => exact absurd rfl (hs n)

/-- The place of a path that leads somewhere is taken, unless its last step is no name. -/
theorem target_of_follow (hsteps : steps path = .ok ss)
    (h : files.root.follow (files.start path) ss = .ok there) :
    files.target path = .ok none ∨ ∃ here n es e, files.target path = .ok (some (here, n)) ∧
      files.root.at? here = some (.directory es) ∧ Entry.find? n es = .ok (some e) := by
  rcases List.eq_nil_or_concat' ss with rfl | ⟨ts, s, rfl⟩
  · left
    rw [target, hsteps]
    rfl
  · rw [Entry.follow_concat] at h
    obtain ⟨here, hhere, hlast⟩ := bind_eq_ok_iff.mp h
    obtain ⟨⟨es, hes⟩, hinto, -⟩ := Entry.next_eq_ok_iff.mp hlast
    cases s with
    | into n =>
      right
      obtain ⟨hlimit, hsome⟩ := hinto n rfl
      rw [Entry.at?_concat hes] at hsome
      obtain ⟨e, he⟩ := Option.isSome_iff_exists.mp hsome
      exact ⟨here, n, es, e, target_eq_ok_some_iff.mpr ⟨ts, hsteps, hhere⟩, hes,
        Entry.find?_eq_ok_iff.mpr ⟨hlimit, he⟩⟩
    | stay =>
      left
      exact target_eq_ok_none hsteps hhere (by simp)
    | up =>
      left
      exact target_eq_ok_none hsteps hhere (by simp)

/-! ### Slashes at the end of a path -/

/-- Steps that stay lead nowhere. -/
theorem follow_append_replicate_stay (k : Nat)
    (h : top.follow here (ss ++ List.replicate k .stay) = .ok there) :
    top.follow here ss = .ok there := by
  induction k with
  | zero => simpa using h
  | succ k ih =>
    rw [List.replicate_succ', ← List.append_assoc] at h
    exact ih (follow_concat_stay.mp h).1

/-- Only slashes are dropped, and never the first character. -/
theorem exists_toList_dropSlashes (path : String) :
    (dropSlashes path = "" → path = "") ∧
      ∃ k, path.toList = (dropSlashes path).toList ++ List.replicate k '/' := by
  unfold dropSlashes
  split
  · next h => exact ⟨fun _ => String.toList_eq_nil_iff.mp h, 0, by simpa using h⟩
  · next c cs h =>
    have hslashes : ∀ d ∈ (cs.reverse.takeWhile (· == '/')).reverse, d = '/' := by
      intro d hd
      have hslash := List.mem_takeWhile_imp (List.mem_reverse.mp hd)
      exact beq_iff_eq.mp hslash
    refine ⟨fun hempty => ?_, (cs.reverse.takeWhile (· == '/')).reverse.length, ?_⟩
    · rw [← String.toList_eq_nil_iff, String.toList_ofList] at hempty
      cases hempty
    · rw [h, String.toList_ofList, ← List.eq_replicate_of_mem hslashes, List.cons_append,
        ← List.reverse_append, List.takeWhile_append_dropWhile, List.reverse_reverse]

theorem route_append_slashes (cs : List Char) (k : Nat) :
    (Text.splitOn '/' (cs ++ List.replicate k '/')).map stepOf
      = (Text.splitOn '/' cs).map stepOf ++ List.replicate k .stay := by
  induction k with
  | zero => simp
  | succ k ih =>
    rw [List.replicate_succ', ← List.append_assoc, Text.splitOn_append_cons, List.map_append, ih,
      List.replicate_succ', List.append_assoc]
    rfl

/-- The slashes at the end of a path that leads to a directory do not matter. -/
theorem follow_dropSlashes (hsteps : steps path = .ok ss)
    (h : files.root.follow (files.start path) ss = .ok there) :
    ∃ ts, steps (dropSlashes path) = .ok ts ∧
      files.root.follow (files.start (dropSlashes path)) ts = .ok there := by
  obtain ⟨hfault, rfl⟩ := steps_eq_ok_iff.mp hsteps
  obtain ⟨hempty, k, hk⟩ := exists_toList_dropSlashes path
  have hpath : path = dropSlashes path ++ String.ofList (List.replicate k '/') := by
    rw [← String.toList_inj, String.toList_append, String.toList_ofList]
    exact hk
  have hne : dropSlashes path ≠ "" :=
    fun h => (pathFault?_eq_none_iff.mp hfault).2.1 (hempty h)
  have hstarts : (dropSlashes path).toList <+: path.toList := ⟨_, hk.symm⟩
  have hstart : files.start (dropSlashes path) = files.start path := by
    rw [start, start]
    conv => rhs; rw [hpath, isAbsolute_append hne]
  refine ⟨route (dropSlashes path),
    steps_eq_ok_iff.mpr ⟨pathFault?_of_start hfault hstarts hne, rfl⟩, ?_⟩
  rw [route, Path.segments, hk, route_append_slashes] at h
  rw [hstart]
  exact follow_append_replicate_stay k h

/-! ### Paths that nothing obstructs -/

/-- No file stands where a path leads, or on the way there. -/
def Unobstructed (files : Files) (path : String) : Prop :=
  ∀ ss, ss <+: route path → ∀ here, files.root.follow (files.start path) ss = .ok here →
    files.root.fileAt? here = none

theorem unobstructed_iff : files.Unobstructed path ↔
    ∀ ss ∈ (route path).inits,
      (files.root.follow (files.start path) ss).toOption.bind files.root.fileAt? = none := by
  unfold Unobstructed
  simp only [List.mem_inits]
  refine forall_congr' fun ss => imp_congr_right fun _ => ?_
  cases files.root.follow (files.start path) ss with
  | error f => exact ⟨fun _ => rfl, fun _ here h => nomatch h⟩
  | ok there =>
    constructor
    · intro h
      exact h there rfl
    · rintro h _ ⟨⟩
      exact h

instance (files : Files) (path : String) : Decidable (files.Unobstructed path) :=
  decidable_of_iff' _ unobstructed_iff

/-- A file can have the path: it holds no zero byte and is not too long, and neither is one of the
names between its slashes. -/
def IsUsable (path : String) : Prop :=
  '\x00' ∉ path.toList ∧ path.utf8ByteSize < pathLimit ∧
    ∀ s ∈ Path.segments path, (String.ofList s).utf8ByteSize ≤ Entry.nameLimit

instance (path : String) : Decidable (IsUsable path) :=
  inferInstanceAs (Decidable (_ ∧ _ ∧ _))

/-- A step cannot be taken if something is missing, if it starts at a file, or if it goes into a
name that is too long. -/
theorem next_eq_error {s : Step} {f : FileFault} (h : top.next here s = .error f) :
    f = .missing ∨ (∃ bytes, top.at? here = some (file bytes)) ∨
      ∃ n, s = .into n ∧ Entry.nameLimit < n.utf8ByteSize := by
  rcases bind_eq_error_iff.mp h with hes | ⟨es, hes, h⟩
  · rw [Entry.entriesAt] at hes
    split at hes
    · cases hes
    · next bytes hbytes => exact .inr (.inl ⟨bytes, hbytes⟩)
    · exact .inl (Except.error.inj hes).symm
  · cases s with
    | stay => cases h
    | up => cases h
    | into n =>
      rcases bind_eq_error_iff.mp h with hlong | ⟨o, ho, h⟩
      · rw [Entry.find?] at hlong
        split at hlong
        · next hlimit => exact .inr (.inr ⟨n, rfl, hlimit⟩)
        · cases hlong
      · split at h
        · cases h
        · exact .inl (Except.error.inj h).symm

/-- Steps cannot be followed because of the first that cannot be taken. -/
theorem follow_eq_error {f : FileFault} (h : top.follow here ss = .error f) :
    ∃ ts s us there, ss = ts ++ s :: us ∧ top.follow here ts = .ok there ∧
      top.next there s = .error f := by
  induction ss generalizing here with
  | nil => cases h
  | cons s ss ih =>
    rcases bind_eq_error_iff.mp h with hnext | ⟨there, hnext, hrest⟩
    · exact ⟨[], s, ss, here, rfl, rfl, hnext⟩
    · obtain ⟨ts, s', us, last, rfl, hlast, herror⟩ := ih hrest
      exact ⟨s :: ts, s', us, last, rfl, bind_eq_ok_iff.mpr ⟨there, hnext, hlast⟩, herror⟩

/-- The names of a usable path are not too long. -/
theorem IsUsable.nameLimit (h : IsUsable path) (hn : .into n ∈ route path) :
    n.utf8ByteSize ≤ Entry.nameLimit := by
  obtain ⟨s, hs, hstep⟩ := List.mem_map.mp hn
  rw [stepOf] at hstep
  split at hstep
  · cases hstep
  · split at hstep
    · cases hstep
    · rw [← Step.into.inj hstep]
      exact h.2.2 s hs

/-- **What is not there below an unobstructed path is missing**, if a file can have its path. -/
theorem Unobstructed.entryAt_join {f : FileFault} (h : files.Unobstructed directory)
    (hn : IsName n) (husable : IsUsable (Path.join directory n))
    (hnone : files.entryAt (Path.join directory n) = .error f) : f = .missing := by
  obtain ⟨ds, hds, hjoin⟩ := exists_route_join directory
  have hstarts : ds <+: route directory := by
    rcases hds with hds | hds
    · exact hds ▸ List.prefix_rfl
    · exact hds ▸ List.prefix_append ds _
  have hsteps : steps (Path.join directory n) = .ok (ds ++ [.into n]) :=
    steps_eq_ok_iff.mpr ⟨hn.pathFault?_join husable.1 husable.2.1, (hjoin n hn).symm⟩
  unfold entryAt at hnone
  rw [locate, hsteps] at hnone
  rcases bind_eq_error_iff.mp hnone with hfollow | ⟨here, -, hat⟩
  · obtain ⟨ts, s, us, there, hss, hthere, hnext⟩ := follow_eq_error hfollow
    rcases next_eq_error hnext with hmissing | ⟨bytes, hbytes⟩ | ⟨m, rfl, hlong⟩
    · exact hmissing
    · -- the steps before the one that fails are steps of the directory
      have hts : ts <+: ds := by
        rcases List.prefix_concat_iff.mp ⟨s :: us, hss.symm⟩ with heq | hts
        · rw [heq, List.self_eq_append_right] at hss
          cases hss
        · exact hts
      rw [start_join hn] at hthere
      have hfile := h ts (hts.trans hstarts) there hthere
      rw [Entry.fileAt?_eq_some_iff.mpr hbytes] at hfile
      cases hfile
    · have hmem : .into m ∈ route (Path.join directory n) := by
        rw [hjoin n hn, hss]
        simp
      exact absurd (husable.nameLimit hmem) (Nat.not_le_of_lt hlong)
  · split at hat
    · cases hat
    · exact (Except.error.inj hat).symm

/-- A name that is too long cannot be looked up in a directory that is there. -/
theorem entryAt_join_eq_nameTooLong (hdirectory : files.entryAt directory = .ok (.directory es))
    (hn : IsName n) (hlong : Entry.nameLimit < n.utf8ByteSize)
    (hfault : pathFault? (Path.join directory n) = none) :
    files.entryAt (Path.join directory n) = .error .nameTooLong := by
  obtain ⟨here, hhere, hes⟩ := entryAt_eq_ok_iff.mp hdirectory
  obtain ⟨ss, hss, hfollow⟩ := locate_eq_ok_iff.mp hhere
  obtain ⟨-, rfl⟩ := steps_eq_ok_iff.mp hss
  obtain ⟨ds, hds, hjoin⟩ := exists_route_join directory
  have hlead : files.root.follow (files.start directory) ds = .ok here := by
    rcases hds with hds | hds
    · rw [← hds, hfollow]
    · rw [hds] at hfollow
      exact (follow_concat_stay.mp hfollow).1
  have hnext : files.root.next here (.into n) = .error .nameTooLong := by
    refine bind_eq_error_iff.mpr (.inr ⟨es, Entry.entriesAt_eq_ok_iff.mpr hes, ?_⟩)
    refine bind_eq_error_iff.mpr (.inl ?_)
    rw [Entry.find?, if_pos hlong]
  have hsteps : steps (Path.join directory n) = .ok (ds ++ [.into n]) :=
    steps_eq_ok_iff.mpr ⟨hfault, (hjoin n hn).symm⟩
  refine bind_eq_error_iff.mpr (.inl ?_)
  rw [locate, hsteps]
  refine bind_eq_error_iff.mpr (.inr ⟨_, rfl, ?_⟩)
  rw [start_join hn, Entry.follow_concat, hlead]
  exact hnext

/-! ### Names of modules -/

theorem isJavaName_append_py (cs : List Char) : isJavaName (cs ++ ".py".toList) = false := by
  rw [isJavaName, Bool.and_eq_false_iff, ← Bool.not_eq_true, List.isSuffixOf_iff_suffix]
  left
  rintro ⟨t, ht⟩
  have hlast := congrArg List.getLast? ht
  rw [List.getLast?_append_of_ne_nil _ (by decide), List.getLast?_append_of_ne_nil _ (by decide)]
    at hlast
  exact absurd hlast (by decide)

/-- The file of a path that ends in `.py` is no Java file. -/
theorem isJavaName_of_target (h : files.target path = .ok (some (here, n)))
    (hpath : ".py".toList <:+ path.toList) : isJavaName n.toList = false := by
  obtain ⟨ss, hss, -⟩ := target_eq_ok_some_iff.mp h
  obtain ⟨-, hroute⟩ := steps_eq_ok_iff.mp hss
  obtain ⟨cs, hcs⟩ := hpath
  have hslash : '/' ∉ ".py".toList := by decide
  obtain ⟨ps, s, -, hsplit⟩ := Text.exists_splitOn_append cs hslash
  rw [route, Path.segments, ← hcs, hsplit, List.map_append, List.map_singleton] at hroute
  obtain ⟨-, hlast⟩ := List.append_inj' hroute rfl
  have hstep : .into n = stepOf (s ++ ".py".toList) := List.singleton_inj.mp hlast
  rw [stepOf] at hstep
  split at hstep
  · cases hstep
  · split at hstep
    · cases hstep
    · rw [Step.into.inj hstep, String.toList_ofList]
      exact isJavaName_append_py s

/-- A name with the ending of a module is one step of a path. -/
theorem isName_append_py {s : String} (h : '/' ∉ s.toList) : IsName (s ++ ".py") where
  noSlash := by
    rw [String.toList_append, List.mem_append, not_or]
    exact ⟨h, by decide⟩
  stepOf_eq := by
    have hlast : ∀ cs : List Char, cs.getLast? ≠ some 'y' → (s ++ ".py").toList ≠ cs := by
      intro cs hcs heq
      rw [← heq, String.toList_append, List.getLast?_append_of_ne_nil _ (by decide)] at hcs
      exact hcs (by decide)
    rw [stepOf, Path.isIdle, if_neg, if_neg, String.ofList_toList]
    · rw [beq_iff_eq]
      exact hlast _ (by decide)
    · rw [Bool.or_eq_true, List.isEmpty_iff, beq_iff_eq, not_or]
      exact ⟨hlast _ (by decide), hlast _ (by decide)⟩

end Files

end RpcBindings
