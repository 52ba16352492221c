/-
  extract_tar_parts of build_trainset.py: the members of an archive, extracted below a directory.

  The name of a member is joined to the real path of the destination and resolved by
  `os.path.realpath`; a member that comes out elsewhere is refused, and what is written goes to the
  resolved path. Up to Python 3.12 `realpath` gives up at a loop of links: it joins the names that
  are left and normalizes the text, so that a link after the loop is not followed, and is followed
  when the file is opened (`loop_escapes`). Where no name runs into a loop the extraction is
  confined (`extractTarParts_confined`); in a tree without links none does, and the real path is
  the path `resolvePath` normalizes (`NoLinks.resolvePath`).

  The archive is the list of its members, as `tarfile` reads them; `extractfile` gives a stream for
  every regular file.
-/
import LookAway.Base.RealPath
import LookAway.Data.Rows

namespace LookAway.Data

open LookAway.Base

/-- `isdir()`, `isfile()`, or neither of them. -/
inductive TarKind where
  | dir
  | file
  | other
  deriving DecidableEq

structure TarMember where
  name : Path
  kind : TarKind
  content : Bytes

/-- The exception of an operating system error. -/
def osException : OsError → PyError
  | .notFound => .library "FileNotFoundError" "[Errno 2] No such file or directory"
  | .notADirectory => .library "NotADirectoryError" "[Errno 20] Not a directory"
  | .isADirectory => .library "IsADirectoryError" "[Errno 21] Is a directory"
  | .fileExists => .library "FileExistsError" "[Errno 17] File exists"
  | .tooManyLinks => .library "OSError" "[Errno 40] Too many levels of symbolic links"

/-- `os.path.realpath`, of a path from the root. -/
def realpath (t : FileTree) (parts : Path) : Location :=
  match t.joinRealPath [] [] parts with
  | .resolved p => p
  | .loop parts => normpath parts

section Extract

variable (destination : Location)

/-- What one member changes, and the exception it ends with. -/
def extractTarMember (t : FileTree) (member : TarMember) : List Effect × Option PyError :=
  let target := realpath t (joinPath destination member.name)
  if ¬destination <+: target then
    ([], some (.valueError ("Unsafe archive path: " ++ Path.text member.name)))
  else
    match member.kind with
    | .dir =>
        let (effects, err) := t.makedirs target
        (effects, err.map osException)
    | .other => ([], some (.valueError ("Unsupported archive entry: " ++ Path.text member.name)))
    | .file =>
        let (effects, err) := t.makedirs target.dropLast
        match err with
        | some err => (effects, some (osException err))
        | none =>
            match (t.applyAll effects).openWrite target member.content with
            | .ok e => (effects ++ [e], none)
            | .error err => (effects, some (osException err))

/-- The loop over the members. -/
def extractTarMembers (t : FileTree) : List TarMember → List Effect × Option PyError
  | [] => ([], none)
  | member :: rest =>
      let (effects, err) := extractTarMember destination t member
      match err with
      | some err => (effects, some err)
      | none =>
          let (more, err) := extractTarMembers (t.applyAll effects) rest
          (effects ++ more, err)

end Extract

/-- `extract_tar_parts` in a working directory. -/
def extractTarParts (cwd : Location) (t : FileTree) (destination : Path)
    (members : List TarMember) : List Effect × Option PyError :=
  extractTarMembers (realpath t (joinPath cwd destination)) t members

/-! ## Confinement -/

/-- The members before this one are extracted with these effects. -/
def Reaches (d : Location) (t : FileTree) (members : List TarMember) (effects : List Effect)
    (member : TarMember) : Prop :=
  ∃ before after, members = before ++ member :: after ∧
    extractTarMembers d t before = (effects, none)

section Confine

variable (cwd : Location) (t : FileTree) (destination : Path) (members : List TarMember)

/-- The destination is a directory. -/
def DestinationExists : Prop := t.RealDir (realpath t (joinPath cwd destination))

/-- No name of a directory or a file runs into a loop of links when its member is reached. -/
def NamesResolve : Prop :=
  let d := realpath t (joinPath cwd destination)
  ∀ effects member, Reaches d t members effects member → member.kind ≠ .other →
    ∃ q, (t.applyAll effects).Resolves [] (joinPath d member.name) q

/-- What is created or written is below the destination, and the first member that leads elsewhere,
    or is neither a directory nor a file, ends the extraction with a ValueError and without an
    effect. -/
def Confined : Prop :=
  let d := realpath t (joinPath cwd destination)
  (∀ e ∈ (extractTarParts cwd t destination members).1, d <+: e.path) ∧
    ∀ effects member, Reaches d t members effects member →
      (∃ q, (t.applyAll effects).Resolves [] (joinPath d member.name) q ∧ ¬d <+: q) ∨
        member.kind = .other →
      ∃ text, extractTarParts cwd t destination members = (effects, some (.valueError text))

end Confine

theorem prefix_dropLast {p q : Location} (h : p <+: q) (hne : p ≠ q) : p <+: q.dropLast := by
  obtain ⟨rest, rfl⟩ := h
  rcases List.eq_nil_or_concat' rest with rfl | ⟨more, name, rfl⟩
  · exact absurd (List.append_nil p).symm hne
  · rw [← List.append_assoc, List.dropLast_concat]
    exact List.prefix_append p more

section Run

variable {t : FileTree} {d q : Location} {member : TarMember}

theorem linkFree_root : t.LinkFree [] := by
  intro p hp target hlink
  rw [List.prefix_nil.mp hp] at hlink
  cases hlink

/-- A path that leads somewhere is its real path. -/
theorem realpath_eq {parts : Path} (h : t.Resolves [] parts q) : realpath t parts = q := by
  unfold realpath
  rw [FileTree.joinRealPath_eq_resolved.mpr h]

theorem extractTarMember_unsafe (h : ¬d <+: realpath t (joinPath d member.name)) :
    extractTarMember d t member =
      ([], some (.valueError ("Unsafe archive path: " ++ Path.text member.name))) := if_pos h

theorem extractTarMember_other (h : member.kind = .other) :
    ∃ text, extractTarMember d t member = ([], some (.valueError text)) := by
  by_cases hin : d <+: realpath t (joinPath d member.name)
  · refine ⟨"Unsupported archive entry: " ++ Path.text member.name, ?_⟩
    unfold extractTarMember
    dsimp only
    rw [if_neg (not_not.mpr hin), h]
  · exact ⟨_, extractTarMember_unsafe hin⟩

/-- What a member changes is below the destination. -/
theorem extractTarMember_within (hd : t.RealDir d)
    (h : t.Resolves [] (joinPath d member.name) q) :
    FileTree.Within d t (extractTarMember d t member).1 := by
  obtain ⟨n, hn⟩ := h
  obtain ⟨hfree, hplain⟩ := hn.linkFree linkFree_root (by simp)
  unfold extractTarMember
  rw [realpath_eq ⟨n, hn⟩]
  dsimp only
  split
  · trivial
  · rename_i hin
    rw [not_not] at hin
    cases member.kind with
    | dir => exact FileTree.makedirs_within hplain hfree hd hin
    | other => trivial
    | file =>
        have hmade : FileTree.Within d t (t.makedirs q.dropLast).1 := by
          have hup : ∀ name ∈ q.dropLast, Plain name :=
            fun name hname => hplain name (List.dropLast_subset _ hname)
          by_cases heq : d = q
          · -- the directory above the destination is there
            have habove : t.RealDir q.dropLast := (heq ▸ hd).mono (List.dropLast_prefix _)
            rw [FileTree.makedirs_of_realDir hup habove]
            trivial
          · exact FileTree.makedirs_within hup (hfree.mono (List.dropLast_prefix _)) hd
              (prefix_dropLast hin heq)
        dsimp only
        split
        · exact hmade
        · split
          · rename_i e he
            exact hmade.append (FileTree.openWrite_within hplain (hfree.applyAll _) hin he)
          · exact hmade

theorem extractTarMembers_cons (h : (extractTarMember d t member).2 = none)
    (rest : List TarMember) :
    extractTarMembers d t (member :: rest) =
      ((extractTarMember d t member).1 ++
          (extractTarMembers d (t.applyAll (extractTarMember d t member).1) rest).1,
        (extractTarMembers d (t.applyAll (extractTarMember d t member).1) rest).2) := by
  rw [extractTarMembers]
  dsimp only
  rw [h]

theorem extractTarMembers_cons_error {err : PyError}
    (h : (extractTarMember d t member).2 = some err) (rest : List TarMember) :
    extractTarMembers d t (member :: rest) = ((extractTarMember d t member).1, some err) := by
  rw [extractTarMembers]
  dsimp only
  rw [h]

/-- What comes after members that are extracted. -/
theorem extractTarMembers_append {members : List TarMember} {effects : List Effect}
    (h : extractTarMembers d t members = (effects, none)) (rest : List TarMember) :
    extractTarMembers d t (members ++ rest) =
      (effects ++ (extractTarMembers d (t.applyAll effects) rest).1,
        (extractTarMembers d (t.applyAll effects) rest).2) := by
  induction members generalizing t effects with
  | nil =>
      cases h
      rfl
  | cons member members ih =>
      cases hmember : (extractTarMember d t member).2 with
      | some err =>
          rw [extractTarMembers_cons_error hmember] at h
          cases h
      | none =>
          rw [extractTarMembers_cons hmember] at h
          obtain ⟨rfl, hnone⟩ := Prod.mk.inj h
          rw [List.cons_append, extractTarMembers_cons hmember, ih (Prod.ext rfl hnone),
            FileTree.applyAll_append, List.append_assoc]

/-- A member that ends the extraction. -/
theorem extractTarMembers_stop {members : List TarMember} {effects : List Effect}
    (h : Reaches d t members effects member) {err : PyError}
    (hmember : extractTarMember d (t.applyAll effects) member = ([], some err)) :
    extractTarMembers d t members = (effects, some err) := by
  obtain ⟨before, after, rfl, hbefore⟩ := h
  have herr : (extractTarMember d (t.applyAll effects) member).2 = some err := by rw [hmember]
  rw [extractTarMembers_append hbefore, extractTarMembers_cons_error herr, hmember, List.append_nil]

/-- The members that are reached: the first one, and after it those of the rest. -/
theorem reaches_cons {members : List TarMember} {effects : List Effect} {next : TarMember}
    (h : Reaches d t (member :: members) effects next) :
    (effects = [] ∧ next = member) ∨ ((extractTarMember d t member).2 = none ∧
      ∃ more, effects = (extractTarMember d t member).1 ++ more ∧
        Reaches d (t.applyAll (extractTarMember d t member).1) members more next) := by
  obtain ⟨before, after, hmembers, hbefore⟩ := h
  cases before with
  | nil =>
      cases hmembers
      cases hbefore
      exact .inl ⟨rfl, rfl⟩
  | cons first before =>
      cases hmembers
      cases hfirst : (extractTarMember d t member).2 with
      | some err =>
          rw [extractTarMembers_cons_error hfirst] at hbefore
          cases hbefore
      | none =>
          rw [extractTarMembers_cons hfirst] at hbefore
          obtain ⟨heffects, hnone⟩ := Prod.mk.inj hbefore
          exact .inr ⟨rfl, _, heffects.symm, before, after, rfl, Prod.ext rfl hnone⟩

/-- The effects of a run whose names resolve. -/
theorem extractTarMembers_within {members : List TarMember} (hd : t.RealDir d)
    (h : ∀ effects member, Reaches d t members effects member → member.kind ≠ .other →
      ∃ q, (t.applyAll effects).Resolves [] (joinPath d member.name) q) :
    FileTree.Within d t (extractTarMembers d t members).1 := by
  induction members generalizing t with
  | nil => trivial
  | cons member members ih =>
      have hwithin : FileTree.Within d t (extractTarMember d t member).1 := by
        by_cases hother : member.kind = .other
        · obtain ⟨text, htext⟩ := extractTarMember_other (d := d) (t := t) hother
          rw [htext]
          trivial
        · obtain ⟨q, hq⟩ := h [] member ⟨[], members, rfl, rfl⟩ hother
          exact extractTarMember_within hd hq
      cases hmember : (extractTarMember d t member).2 with
      | some err =>
          rw [extractTarMembers_cons_error hmember]
          exact hwithin
      | none =>
          rw [extractTarMembers_cons hmember]
          refine hwithin.append (ih (hwithin.realDir hd) ?_)
          rintro effects next ⟨before, after, rfl, hbefore⟩ hkind
          rw [← FileTree.applyAll_append]
          refine h _ next ⟨member :: before, after, rfl, ?_⟩ hkind
          rw [extractTarMembers_cons hmember, hbefore]

/-- A member that leads elsewhere, or is neither a directory nor a file. -/
theorem extractTarMember_refused
    (h : (∃ q, t.Resolves [] (joinPath d member.name) q ∧ ¬d <+: q) ∨ member.kind = .other) :
    ∃ text, extractTarMember d t member = ([], some (.valueError text)) := by
  rcases h with ⟨q, hq, hout⟩ | hother
  · rw [← realpath_eq hq] at hout
    exact ⟨_, extractTarMember_unsafe hout⟩
  · exact extractTarMember_other hother

end Run

section Confinement

variable {cwd : Location} {t : FileTree} {destination : Path} {members : List TarMember}

/-- **Where no name runs into a loop of links, the extraction is confined.** -/
theorem extractTarParts_confined (hd : DestinationExists cwd t destination)
    (h : NamesResolve cwd t destination members) : Confined cwd t destination members := by
  refine ⟨(extractTarMembers_within hd h).path, ?_⟩
  intro effects member hreach hrefused
  obtain ⟨text, htext⟩ := extractTarMember_refused hrefused
  exact ⟨text, extractTarMembers_stop hreach htext⟩

/-- A destination with a link to one of its own directories. -/
def linkTree : FileTree := ⟨[(["d"], .dir), (["d", "in"], .link ["sub"]), (["d", "sub"], .dir)]⟩

/-- A destination with a link to itself, and a link to a directory outside. -/
def loopTree : FileTree :=
  ⟨[(["d"], .dir), (["d", "loop"], .link ["loop"]), (["d", "evil"], .link ["", "out"]),
    (["out"], .dir)]⟩

theorem destination_exists {t : FileTree} (hnode : t.node ["d"] = some .dir) :
    realpath t (joinPath [] ["", "d"]) = ["d"] ∧ DestinationExists [] t ["", "d"] := by
  have hresolves : t.Resolves [] (joinPath [] ["", "d"]) ["d"] := by
    refine ⟨2, .skip (.inl rfl) (.name (by decide +kernel) ?_ (.nil _))⟩
    unfold FileTree.readLink?
    rw [List.nil_append, hnode]
  refine ⟨realpath_eq hresolves, ?_⟩
  unfold DestinationExists
  rw [realpath_eq hresolves]
  intro q hq
  rcases List.prefix_concat_iff.mp (show q <+: [] ++ ["d"] from hq) with rfl | hq
  · exact hnode
  · rw [List.prefix_nil.mp hq]
    rfl

/-- A file behind the link, one that climbs out of the destination, and one that is not reached. -/
def climbingMembers : List TarMember :=
  [⟨["in", "x"], .file, [1]⟩, ⟨["in", "..", "..", "etc"], .file, [2]⟩, ⟨["y"], .file, [3]⟩]

theorem extractTarParts_confined_sample : Confined [] linkTree ["", "d"] climbingMembers ∧
    extractTarParts [] linkTree ["", "d"] climbingMembers =
      ([.write ["d", "sub", "x"] [1]],
        some (.valueError "Unsafe archive path: in/../../etc")) := by
  obtain ⟨hreal, hexists⟩ := destination_exists (t := linkTree) (by decide +kernel)
  have hin : linkTree.Resolves [] ["d", "in", "x"] ["d", "sub", "x"] :=
    ⟨_, .name (by decide +kernel) (by decide +kernel)
      (.link (by decide +kernel) (show linkTree.readLink? ["d", "in"] = some ["sub"] from rfl)
        (.name (by decide +kernel) (by decide +kernel) (.nil _))
        (.name (by decide +kernel) (by decide +kernel) (.nil _)))⟩
  have hfirst : extractTarMember ["d"] linkTree ⟨["in", "x"], .file, [1]⟩ =
      ([.write ["d", "sub", "x"] [1]], none) := by
    unfold extractTarMember
    rw [show joinPath ["d"] ["in", "x"] = ["d", "in", "x"] from rfl, realpath_eq hin]
    decide +kernel
  -- what the second member sees
  set t := linkTree.applyAll [.write ["d", "sub", "x"] [1]] with ht
  have hout : t.Resolves [] ["d", "in", "..", "..", "etc"] ["etc"] :=
    ⟨_, .name (by decide +kernel) (by decide +kernel)
      (.link (by decide +kernel) (show t.readLink? ["d", "in"] = some ["sub"] from rfl)
        (.name (by decide +kernel) (by decide +kernel) (.nil _))
        (.up (.up (.name (by decide +kernel) (by decide +kernel) (.nil _)))))⟩
  have hsecond : extractTarMember ["d"] t ⟨["in", "..", "..", "etc"], .file, [2]⟩ =
      ([], some (.valueError "Unsafe archive path: in/../../etc")) := by
    refine extractTarMember_unsafe ?_
    rw [show joinPath ["d"] ["in", "..", "..", "etc"] = ["d", "in", "..", "..", "etc"] from rfl,
      realpath_eq hout]
    decide
  constructor
  · refine extractTarParts_confined hexists ?_
    unfold NamesResolve
    rw [hreal]
    dsimp only
    intro effects member hreach _
    rcases reaches_cons hreach with ⟨rfl, rfl⟩ | ⟨-, more, rfl, hmore⟩
    · exact ⟨_, hin⟩
    · rw [hfirst] at hmore ⊢
      rcases reaches_cons hmore with ⟨rfl, rfl⟩ | ⟨hnone, -⟩
      · exact ⟨_, hout⟩
      · rw [← ht, hsecond] at hnone
        cases hnone
  · unfold extractTarParts climbingMembers
    rw [hreal, extractTarMembers_cons (by rw [hfirst]), hfirst,
      extractTarMembers_cons_error (by rw [← ht, hsecond]), ← ht, hsecond]
    rfl

/-- The names after the loop are only joined, and the file is opened behind the other link. -/
theorem loop_escapes :
    DestinationExists [] loopTree ["", "d"] ∧
      (extractTarParts [] loopTree ["", "d"] [⟨["loop", "..", "evil", "x"], .file, [1]⟩]).1 =
        [.write ["out", "x"] [1]] ∧
      ¬Confined [] loopTree ["", "d"] [⟨["loop", "..", "evil", "x"], .file, [1]⟩] := by
  obtain ⟨hreal, hexists⟩ := destination_exists (t := loopTree) (by decide +kernel)
  have htarget : realpath loopTree ["d", "loop", "..", "evil", "x"] = ["d", "evil", "x"] := by
    have hloop : loopTree.readLink? ["d", "loop"] = some ["loop"] := rfl
    have hself : loopTree.joinRealPath [["d", "loop"]] ["d"] ["loop"] = .loop ["d", "loop"] :=
      FileTree.joinRealPath_pending (by decide +kernel) hloop (List.mem_singleton_self _)
    have hjoin : loopTree.joinRealPath [] [] ["d", "loop", "..", "evil", "x"] =
        .loop ["d", "loop", "..", "evil", "x"] := by
      have hd : Plain "d" := by decide +kernel
      have hname : Plain "loop" := by decide +kernel
      have hnew : (["d"] ++ ["loop"] : Location) ∉ ([] : List Location) := List.not_mem_nil
      exact (FileTree.joinRealPath_name hd rfl).trans
        (FileTree.joinRealPath_loop hname hloop hnew hself)
    unfold realpath
    rw [hjoin]
    decide +kernel
  have hwritten : (extractTarParts [] loopTree ["", "d"]
      [⟨["loop", "..", "evil", "x"], .file, [1]⟩]).1 = [.write ["out", "x"] [1]] := by
    have hmember : extractTarMember ["d"] loopTree ⟨["loop", "..", "evil", "x"], .file, [1]⟩ =
        ([.write ["out", "x"] [1]], none) := by
      unfold extractTarMember
      have hpath : joinPath ["d"] ["loop", "..", "evil", "x"] =
          ["d", "loop", "..", "evil", "x"] := rfl
      rw [hpath, htarget]
      decide +kernel
    unfold extractTarParts
    rw [hreal, extractTarMembers_cons (by rw [hmember]), hmember]
    rfl
  refine ⟨hexists, hwritten, ?_⟩
  rintro ⟨hinside, -⟩
  rw [hwritten, hreal] at hinside
  have hout := hinside _ (List.mem_singleton_self _)
  exact absurd hout (by decide)

end Confinement

/-! ## A tree without links -/

section NoLinks

variable {t : FileTree}

/-- There is no link at all. -/
def NoLinks (t : FileTree) : Prop := ∀ p, t.readLink? p = none

theorem NoLinks.joinRealPath (h : NoLinks t) (pending : List Location) (p : Location)
    (parts : Path) :
    t.joinRealPath pending p parts = .resolved (parts.foldl (fun acc c =>
      if c = "" ∨ c = "." then acc else if c = ".." then acc.dropLast else acc ++ [c]) p) := by
  induction parts generalizing p with
  | nil => rw [FileTree.joinRealPath, List.foldl_nil]
  | cons name rest ih =>
      rw [List.foldl_cons]
      by_cases hskip : name = "" ∨ name = "."
      · rw [FileTree.joinRealPath_skip hskip, if_pos hskip]
        exact ih p
      · rw [if_neg hskip]
        by_cases hup : name = ".."
        · rw [hup, FileTree.joinRealPath_up, if_pos rfl]
          exact ih p.dropLast
        · rw [not_or] at hskip
          rw [FileTree.joinRealPath_name ⟨hskip.1, hskip.2, hup⟩ (h _), if_neg hup]
          exact ih (p ++ [name])

/-- The real path is the normalized one, as `resolvePath` has it. -/
theorem NoLinks.realpath (h : NoLinks t) (parts : Path) : realpath t parts = normpath parts := by
  unfold Data.realpath
  rw [h.joinRealPath]
  rfl

theorem NoLinks.resolvePath (h : NoLinks t) (root : Location) {relative : Path}
    (hne : relative ≠ [""]) :
    Data.realpath t (joinPath root relative) = resolvePath root relative := by
  rw [h.realpath]
  unfold Data.resolvePath joinPath isAbsolute
  split
  · rw [if_pos rfl, if_pos (by rfl)]
  · rename_i hrelative
    have hhead : relative.head? ≠ some "" := by
      intro hhead
      obtain ⟨rest, rfl⟩ := List.head?_eq_some_iff.mp hhead
      cases rest with
      | nil => exact hne rfl
      | cons name rest => exact hrelative name rest rfl
    rw [if_neg hhead, if_neg (by decide)]

/-- An extraction makes no link. -/
theorem NoLinks.applyAll (h : NoLinks t) (effects : List Effect) :
    NoLinks (t.applyAll effects) := by
  induction effects generalizing t with
  | nil => exact h
  | cons e effects ih =>
      apply ih
      intro p
      have hp := h p
      unfold FileTree.readLink? at hp ⊢
      rw [FileTree.node_apply]
      by_cases hroot : p = []
      · rw [if_pos hroot]
      · rw [if_neg hroot]
        by_cases hpath : p = e.path
        · rw [if_pos hpath]
          cases e <;> rfl
        · rw [if_neg hpath]
          exact hp

/-- Where there is no link, no name runs into a loop. -/
theorem NoLinks.namesResolve (h : NoLinks t) (cwd : Location) (destination : Path)
    (members : List TarMember) : NamesResolve cwd t destination members := by
  intro effects member _ _
  exact ⟨_, FileTree.resolves_of_joinRealPath ((h.applyAll effects).joinRealPath [] [] _)⟩

end NoLinks

end LookAway.Data
