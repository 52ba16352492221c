/-
  A tree of directories, files and symbolic links, and what a kernel does with a path in it.
  Nothing here names a program.

  A location is the list of its names from the root. A path is the list of its parts; an absolute
  one starts with an empty part. `walk` follows a path up to the first link, `namei` follows the
  links too. `mkdir` and `openWrite` say what a call changes (an `Effect`). Where no link is on the
  way, that is the location named (`namei_of_linkFree`), so the effects stay below a directory that
  holds it (`makedirs_within`, `openWrite_within`).
-/
import LookAway.Base.Control
import LookAway.Base.Dict
import Mathlib.Data.List.Induction
import Mathlib.Data.List.Infix

namespace LookAway.Base

/-- The names from the root. -/
abbrev Location := List String

inductive Node where
  | dir
  | file (content : List UInt8)
  | link (target : List String)
  deriving DecidableEq

inductive OsError where
  | notFound
  | notADirectory
  | isADirectory
  | fileExists
  | tooManyLinks
  deriving DecidableEq

/-- What is where. The root is a directory. -/
structure FileTree where
  entries : List (Location × Node)

/-- A change of the tree. -/
inductive Effect where
  | mkdir (p : Location)
  | write (p : Location) (content : List UInt8)
  deriving DecidableEq

def Effect.path : Effect → Location
  | .mkdir p => p
  | .write p _ => p

def Effect.node : Effect → Node
  | .mkdir _ => .dir
  | .write _ content => .file content

/-- The text "" is one empty part, and is relative. -/
def isAbsolute : List String → Bool
  | "" :: _ :: _ => true
  | _ => false

/-- `os.path.join(p, parts)`, of a location. -/
def joinPath (p : Location) (parts : List String) : List String :=
  if isAbsolute parts then parts else p ++ parts

/-- Where a path starts, from a location. -/
def startOf (p : Location) (parts : List String) : Location := if isAbsolute parts then [] else p

/-- A name that is not "", "." or "..". -/
def Plain (name : String) : Prop := name ≠ "" ∧ name ≠ "." ∧ name ≠ ".."

instance : DecidablePred Plain := fun name =>
  inferInstanceAs (Decidable (name ≠ "" ∧ name ≠ "." ∧ name ≠ ".."))

theorem Plain.not_skipped {name : String} (h : Plain name) : ¬(name = "" ∨ name = ".") :=
  not_or.mpr ⟨h.1, h.2.1⟩

theorem Plain.ne_up {name : String} (h : Plain name) : name ≠ ".." := h.2.2

namespace FileTree

variable (t : FileTree)

/-- What `lstat` finds. -/
def node (p : Location) : Option Node :=
  if p = [] then some .dir else @List.lookup _ _ instBEqOfDecidableEq p t.entries

def apply (e : Effect) : FileTree := ⟨insertEntry t.entries e.path e.node⟩

def applyAll (effects : List Effect) : FileTree := effects.foldl apply t

/-! ## Resolving a path -/

inductive Walk where
  | done (p : Location)
  | link (start : Location) (parts : List String)
  | error (err : OsError)

/-- Follow a path up to the first link. The last name may be missing. -/
def walk : Location → List String → Walk
  | p, [] => .done p
  | p, name :: rest =>
      if name = "" ∨ name = "." then walk p rest
      else if name = ".." then walk p.dropLast rest
      else
        match t.node (p ++ [name]) with
        | some .dir => walk (p ++ [name]) rest
        | some (.link target) => .link (startOf p target) (target ++ rest)
        | some (.file _) => if rest = [] then .done (p ++ [name]) else .error .notADirectory
        | none => if rest = [] then .done (p ++ [name]) else .error .notFound

/-- Follow at most so many links. -/
def follow : ℕ → Walk → Except OsError Location
  | _, .done p => .ok p
  | _, .error err => .error err
  | 0, .link _ _ => .error .tooManyLinks
  | n + 1, .link start parts => follow n (t.walk start parts)

def maxLinks : ℕ := 40

/-- Where a path from the root leads. -/
def namei (parts : List String) : Except OsError Location := t.follow maxLinks (t.walk [] parts)

/-- `os.path.exists` -/
def pathExists (parts : List String) : Bool :=
  match t.namei parts with
  | .ok p => (t.node p).isSome
  | .error _ => false

/-- `os.path.isdir` -/
def isDir (parts : List String) : Bool :=
  match t.namei parts with
  | .ok p => t.node p = some .dir
  | .error _ => false

/-! ## Changing the tree -/

/-- A new directory at a location. -/
def mkdirAt (p : Location) (name : String) : Except OsError Effect :=
  match t.node p with
  | some .dir =>
      if (t.node (p ++ [name])).isSome then .error .fileExists else .ok (.mkdir (p ++ [name]))
  | some _ => .error .notADirectory
  | none => .error .notFound

/-- `mkdir`, with the last name apart. -/
def mkdir (up : List String) (name : String) : Except OsError Effect := do
  let p ← t.namei up
  t.mkdirAt p name

/-- `open(path, "wb")`, and the whole content written. -/
def openWrite (parts : List String) (content : List UInt8) : Except OsError Effect := do
  let p ← t.namei parts
  if t.node p = some .dir then .error .isADirectory else .ok (.write p content)

/-- The last step of `os.makedirs(path, exist_ok=True)`. -/
def makeDir (up : List String) (name : String) : List Effect × Option OsError :=
  match t.mkdir up name with
  | .ok e => ([e], none)
  | .error err => if t.isDir (up ++ [name]) then ([], none) else ([], some err)

/-- `makedirs`, of a path from its last name to its first. -/
def makedirsRev : List String → List Effect × Option OsError
  | [] => ([], none)
  | name :: up =>
      if t.pathExists up.reverse then t.makeDir up.reverse name
      else
        let (effects, err) := makedirsRev up
        if err = none ∨ err = some .fileExists then
          let (more, err) := (t.applyAll effects).makeDir up.reverse name
          (effects ++ more, err)
        else (effects, err)

/-- `os.makedirs(path, exist_ok=True)`: what it changes, and the error it ends with. -/
def makedirs (path : List String) : List Effect × Option OsError := t.makedirsRev path.reverse

/-! ## Locations without links -/

/-- No link on the way. -/
def LinkFree (p : Location) : Prop := ∀ q, q <+: p → ∀ target, t.node q ≠ some (.link target)

/-- A directory, and all above it are. -/
def RealDir (p : Location) : Prop := ∀ q, q <+: p → t.node q = some .dir

variable {t} {p d : Location}

theorem LinkFree.mono (h : t.LinkFree p) (hd : d <+: p) : t.LinkFree d :=
  fun q hq => h q (hq.trans hd)

theorem RealDir.mono (h : t.RealDir p) (hd : d <+: p) : t.RealDir d :=
  fun q hq => h q (hq.trans hd)

theorem node_apply (t : FileTree) (e : Effect) (q : Location) :
    (t.apply e).node q =
      if q = [] then some .dir else if q = e.path then some e.node else t.node q := by
  unfold node apply
  by_cases hq : q = []
  · rw [if_pos hq, if_pos hq]
  · rw [if_neg hq, if_neg hq, if_neg hq]
    exact lookup_insertEntry t.entries e.path e.node q

theorem LinkFree.apply (h : t.LinkFree p) (e : Effect) : (t.apply e).LinkFree p := by
  intro q hq target
  rw [node_apply]
  split
  · intro hlink
    cases hlink
  · split
    · cases e <;> exact fun hlink => nomatch hlink
    · exact h q hq target

theorem LinkFree.applyAll (h : t.LinkFree p) (effects : List Effect) :
    (t.applyAll effects).LinkFree p := by
  induction effects generalizing t with
  | nil => exact h
  | cons e effects ih => exact ih (h.apply e)

theorem walk_dir {name : String} (hname : Plain name) (h : t.node (p ++ [name]) = some .dir)
    (rest : List String) : t.walk p (name :: rest) = t.walk (p ++ [name]) rest := by
  conv_lhs => unfold walk
  rw [if_neg hname.not_skipped, if_neg hname.ne_up, h]

/-- The walk ends at what is no directory and no link. -/
theorem walk_other {name : String} (hname : Plain name) (hdir : t.node (p ++ [name]) ≠ some .dir)
    (hlink : ∀ target, t.node (p ++ [name]) ≠ some (.link target)) (rest : List String) :
    rest = [] ∧ t.walk p (name :: rest) = .done (p ++ [name]) ∨
      ∃ err, t.walk p (name :: rest) = .error err := by
  unfold walk
  rw [if_neg hname.not_skipped, if_neg hname.ne_up]
  by_cases hrest : rest = []
  · left
    cases hnode : t.node (p ++ [name]) with
    | none => exact ⟨hrest, if_pos hrest⟩
    | some node =>
        cases node with
        | dir => exact absurd hnode hdir
        | file content => exact ⟨hrest, if_pos hrest⟩
        | link target => exact absurd hnode (hlink target)
  · right
    cases hnode : t.node (p ++ [name]) with
    | none => exact ⟨_, if_neg hrest⟩
    | some node =>
        cases node with
        | dir => exact absurd hnode hdir
        | file content => exact ⟨_, if_neg hrest⟩
        | link target => exact absurd hnode (hlink target)

theorem walk_of_linkFree {names : List String} (hnames : ∀ name ∈ names, Plain name)
    (hfree : t.LinkFree (p ++ names)) :
    t.walk p names = .done (p ++ names) ∨ ∃ err, t.walk p names = .error err := by
  induction names generalizing p with
  | nil =>
      left
      rw [List.append_nil]
      rfl
  | cons name names ih =>
      obtain ⟨hname, hrest⟩ := List.forall_mem_cons.mp hnames
      have happend : p ++ name :: names = (p ++ [name]) ++ names := by simp
      rw [happend] at hfree ⊢
      have hlink := hfree (p ++ [name]) (List.prefix_append _ _)
      by_cases hdir : t.node (p ++ [name]) = some .dir
      · rw [walk_dir hname hdir]
        exact ih hrest hfree
      · rcases walk_other hname hdir hlink names with ⟨rfl, hdone⟩ | herr
        · rw [List.append_nil]
          exact .inl hdone
        · exact .inr herr

theorem walk_of_realDir {names : List String} (hnames : ∀ name ∈ names, Plain name)
    (hdir : t.RealDir (p ++ names)) : t.walk p names = .done (p ++ names) := by
  induction names generalizing p with
  | nil =>
      rw [List.append_nil]
      rfl
  | cons name names ih =>
      obtain ⟨hname, hrest⟩ := List.forall_mem_cons.mp hnames
      have happend : p ++ name :: names = (p ++ [name]) ++ names := by simp
      rw [happend] at hdir ⊢
      rw [walk_dir hname (hdir _ (List.prefix_append _ _))]
      exact ih hrest hdir

/-- Without links on the way a path leads to its own location. -/
theorem namei_of_linkFree (hplain : ∀ name ∈ p, Plain name) (hfree : t.LinkFree p) {q : Location}
    (h : t.namei p = .ok q) : q = p := by
  unfold namei at h
  rcases walk_of_linkFree (p := []) hplain hfree with hdone | ⟨err, herr⟩
  · rw [hdone] at h
    exact (Except.ok.inj h).symm
  · rw [herr] at h
    cases h

theorem namei_of_realDir (hplain : ∀ name ∈ p, Plain name) (hdir : t.RealDir p) :
    t.namei p = .ok p := by
  unfold namei
  rw [walk_of_realDir (p := []) hplain hdir]
  rfl

theorem pathExists_of_realDir (hplain : ∀ name ∈ p, Plain name) (hdir : t.RealDir p) :
    t.pathExists p = true := by
  unfold pathExists
  rw [namei_of_realDir hplain hdir]
  dsimp only
  rw [hdir p List.prefix_rfl]
  rfl

theorem isDir_of_realDir (hplain : ∀ name ∈ p, Plain name) (hdir : t.RealDir p) :
    t.isDir p = true := by
  unfold isDir
  rw [namei_of_realDir hplain hdir]
  dsimp only
  rw [hdir p List.prefix_rfl]
  rfl

/-! ## Effects below a directory -/

/-- The effect puts something where there was none, or no directory. -/
def Fresh (t : FileTree) : Effect → Prop
  | .mkdir p => t.node p = none
  | .write p _ => t.node p ≠ some .dir

/-- The effects, one after the other, are all below `d`. -/
def Within (d : Location) : FileTree → List Effect → Prop
  | _, [] => True
  | t, e :: effects => d <+: e.path ∧ t.Fresh e ∧ Within d (t.apply e) effects

theorem RealDir.apply (h : t.RealDir p) {e : Effect} (he : t.Fresh e) : (t.apply e).RealDir p := by
  intro q hq
  rw [node_apply]
  split
  · rfl
  · split
    · rename_i hpath
      have hnode := h q hq
      rw [hpath] at hnode
      cases e with
      | mkdir p => rfl
      | write p content => exact absurd hnode he
    · exact h q hq

theorem Within.realDir {effects : List Effect} (h : Within d t effects) (hdir : t.RealDir p) :
    (t.applyAll effects).RealDir p := by
  induction effects generalizing t with
  | nil => exact hdir
  | cons e effects ih => exact ih h.2.2 (hdir.apply h.2.1)

theorem Within.append {effects more : List Effect} (h : Within d t effects)
    (hmore : Within d (t.applyAll effects) more) : Within d t (effects ++ more) := by
  induction effects generalizing t with
  | nil => exact hmore
  | cons e effects ih => exact ⟨h.1, h.2.1, ih h.2.2 hmore⟩

theorem Within.path {effects : List Effect} (h : Within d t effects) :
    ∀ e ∈ effects, d <+: e.path := by
  induction effects generalizing t with
  | nil => simp
  | cons e effects ih => exact List.forall_mem_cons.mpr ⟨h.1, ih h.2.2⟩

theorem applyAll_append (effects more : List Effect) :
    t.applyAll (effects ++ more) = (t.applyAll effects).applyAll more := by
  unfold applyAll
  rw [List.foldl_append]

/-- What `mkdir` makes. -/
theorem mkdir_eq_ok {up : Location} {name : String} {e : Effect} (hplain : ∀ n ∈ up, Plain n)
    (hfree : t.LinkFree up) (h : t.mkdir up name = .ok e) :
    e = .mkdir (up ++ [name]) ∧ t.node (up ++ [name]) = none := by
  obtain ⟨q, hq, hmade⟩ := except_bind_ok.mp h
  rw [namei_of_linkFree hplain hfree hq] at hmade
  unfold mkdirAt at hmade
  split at hmade
  · split at hmade
    · cases hmade
    · rename_i hnone
      exact ⟨(Except.ok.inj hmade).symm, by simpa using hnone⟩
  · cases hmade
  · cases hmade

theorem makeDir_within {up : Location} {name : String} (hplain : ∀ n ∈ up, Plain n)
    (hfree : t.LinkFree up) (hin : d <+: up ++ [name]) : Within d t (t.makeDir up name).1 := by
  unfold makeDir
  cases hmade : t.mkdir up name with
  | error err =>
      dsimp only
      split <;> trivial
  | ok e =>
      obtain ⟨rfl, hnone⟩ := mkdir_eq_ok hplain hfree hmade
      exact ⟨hin, hnone, trivial⟩

/-- A directory that is there is not made again. -/
theorem makeDir_of_realDir {up : Location} {name : String} (hplain : ∀ n ∈ up ++ [name], Plain n)
    (hdir : t.RealDir (up ++ [name])) : t.makeDir up name = ([], none) := by
  have hup : t.RealDir up := hdir.mono (List.prefix_append _ _)
  have hupPlain : ∀ n ∈ up, Plain n := fun n hn => hplain n (List.mem_append_left _ hn)
  have hmkdir : t.mkdir up name = .error .fileExists := by
    unfold mkdir
    rw [namei_of_realDir hupPlain hup]
    show t.mkdirAt up name = _
    unfold mkdirAt
    rw [hup up List.prefix_rfl, hdir _ List.prefix_rfl]
    rfl
  unfold makeDir
  rw [hmkdir]
  exact if_pos (isDir_of_realDir hplain hdir)

theorem makedirs_of_realDir (hplain : ∀ n ∈ p, Plain n) (hdir : t.RealDir p) :
    t.makedirs p = ([], none) := by
  unfold makedirs
  rcases List.eq_nil_or_concat' p with rfl | ⟨up, name, rfl⟩
  · rfl
  · have hup : t.RealDir up := hdir.mono (List.prefix_append _ _)
    have hupPlain : ∀ n ∈ up, Plain n := fun n hn => hplain n (List.mem_append_left _ hn)
    rw [List.reverse_append, List.reverse_singleton, List.singleton_append]
    unfold makedirsRev
    rw [List.reverse_reverse, if_pos (pathExists_of_realDir hupPlain hup)]
    exact makeDir_of_realDir hplain hdir

/-- `makedirs` below a directory makes directories below it. -/
theorem makedirs_within (hplain : ∀ n ∈ p, Plain n) (hfree : t.LinkFree p) (hd : t.RealDir d)
    (hin : d <+: p) : Within d t (t.makedirs p).1 := by
  have hdplain : ∀ n ∈ d, Plain n := fun n hn => hplain n (hin.subset hn)
  unfold makedirs
  induction p using List.reverseRecOn with
  | nil => trivial
  | append_singleton up name ih =>
      rw [List.reverse_append, List.reverse_singleton, List.singleton_append]
      have hupPlain : ∀ n ∈ up, Plain n := fun n hn => hplain n (List.mem_append_left _ hn)
      have hupFree : t.LinkFree up := hfree.mono (List.prefix_append _ _)
      unfold makedirsRev
      rw [List.reverse_reverse]
      split
      · exact makeDir_within hupPlain hupFree hin
      · -- the directory above is missing, so it is below `d` too
        rename_i hmissing
        have hinUp : d <+: up := by
          rcases List.prefix_concat_iff.mp hin with rfl | hinUp
          · exact absurd (pathExists_of_realDir hupPlain (hd.mono (List.prefix_append _ _)))
              hmissing
          · exact hinUp
        have hwithin := ih hupPlain hupFree hinUp
        dsimp only
        split
        · exact hwithin.append (makeDir_within hupPlain (hupFree.applyAll _) hin)
        · exact hwithin

theorem openWrite_within (hplain : ∀ n ∈ p, Plain n) (hfree : t.LinkFree p) (hin : d <+: p)
    {content : List UInt8} {e : Effect} (h : t.openWrite p content = .ok e) :
    Within d t [e] := by
  obtain ⟨q, hq, hopened⟩ := except_bind_ok.mp h
  rw [namei_of_linkFree hplain hfree hq] at hopened
  split at hopened
  · cases hopened
  · rename_i hdir
    cases hopened
    exact ⟨hin, hdir, trivial⟩

end FileTree

end LookAway.Base
