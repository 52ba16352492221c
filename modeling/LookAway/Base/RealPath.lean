/-
  The real path of a path in a tree with links, computed name by name from `lstat` and `readlink`.
  Nothing here names a program.

  `Resolves` is where a path leads: links are followed, a name that is missing stays. The number
  counts the steps, and is the same for every derivation (`ResolvesIn.unique`). `joinRealPath`
  knows the links it is in the middle of; a path that comes back to one of them is a loop, and what
  is left of it is only joined. It ends in `.resolved` exactly where the path resolves
  (`joinRealPath_eq_resolved`), and then no link is left on the way (`ResolvesIn.linkFree`).
-/
import LookAway.Base.FileTree

namespace LookAway.Base

namespace FileTree

variable (t : FileTree)

/-- `readlink` -/
def readLink? (p : Location) : Option (List String) :=
  match t.node p with
  | some (.link target) => some target
  | _ => none

/-- Where the links are. -/
def links : List Location :=
  t.entries.filterMap fun e =>
    match e.2 with
    | .link _ => some e.1
    | _ => none

variable {t} in
theorem mem_links {p : Location} {target : List String} (h : t.readLink? p = some target) :
    p ∈ t.links := by
  unfold readLink? at h
  split at h
  · rename_i target' hnode
    unfold node at hnode
    split at hnode
    · cases hnode
    · exact List.mem_filterMap.mpr ⟨_, lookup_mem hnode, rfl⟩
  · cases h

/-- The links that are not being resolved. -/
def unseen (pending : List Location) : List Location :=
  t.links.filter fun l => !pending.contains l

theorem length_unseen_cons {pending : List Location} {p : Location} (hlink : p ∈ t.links)
    (hnew : p ∉ pending) : (t.unseen (p :: pending)).length < (t.unseen pending).length := by
  have hfilter : t.unseen (p :: pending) = (t.unseen pending).filter fun l => l ≠ p := by
    unfold unseen
    rw [List.filter_filter]
    apply List.filter_congr
    intro l _
    simp
  rw [hfilter, List.length_filter_lt_length_iff_exists]
  exact ⟨p, List.mem_filter.mpr ⟨hlink, by simpa using hnew⟩, by simp⟩

/-- The result of `joinRealPath`: where the path leads, or what it is joined to at a loop. -/
inductive Joined where
  | resolved (p : Location)
  | loop (parts : List String)

/-- `os.path._joinrealpath`, with the links that are being resolved. -/
def joinRealPath (pending : List Location) (p : Location) : List String → Joined
  | [] => .resolved p
  | name :: rest =>
      if name = "" ∨ name = "." then joinRealPath pending p rest
      else if name = ".." then joinRealPath pending p.dropLast rest
      else
        match _hlink : t.readLink? (p ++ [name]) with
        | none => joinRealPath pending (p ++ [name]) rest
        | some target =>
            if _hloop : pending.contains (p ++ [name]) = true then
              .loop (joinPath (p ++ [name]) rest)
            else
              match joinRealPath ((p ++ [name]) :: pending) (startOf p target) target with
              | .resolved q => joinRealPath pending q rest
              | .loop parts => .loop (joinPath parts rest)
termination_by parts => ((t.unseen pending).length, parts.length)
decreasing_by
  · exact Prod.Lex.right _ (by simp)
  · exact Prod.Lex.right _ (by simp)
  · exact Prod.Lex.right _ (by simp)
  · exact Prod.Lex.left _ _ (t.length_unseen_cons (mem_links _hlink)
      fun hmem => _hloop (List.contains_iff_mem.mpr hmem))
  · exact Prod.Lex.right _ (by simp)

section Steps

variable {t} {pending : List Location} {p : Location} {name : String} {target rest : List String}

theorem joinRealPath_skip (h : name = "" ∨ name = ".") :
    t.joinRealPath pending p (name :: rest) = t.joinRealPath pending p rest := by
  rw [joinRealPath, if_pos h]

theorem joinRealPath_up :
    t.joinRealPath pending p (".." :: rest) = t.joinRealPath pending p.dropLast rest := by
  rw [joinRealPath, if_neg (by decide), if_pos rfl]

theorem joinRealPath_name (hname : Plain name) (hnode : t.readLink? (p ++ [name]) = none) :
    t.joinRealPath pending p (name :: rest) = t.joinRealPath pending (p ++ [name]) rest := by
  rw [joinRealPath, if_neg hname.not_skipped, if_neg hname.ne_up]
  split
  · rfl
  · rename_i hlink
    rw [hnode] at hlink
    cases hlink

/-- A link that is being resolved. -/
theorem joinRealPath_pending (hname : Plain name) (hlink : t.readLink? (p ++ [name]) = some target)
    (hpending : p ++ [name] ∈ pending) :
    t.joinRealPath pending p (name :: rest) = .loop (joinPath (p ++ [name]) rest) := by
  rw [joinRealPath, if_neg hname.not_skipped, if_neg hname.ne_up]
  split
  · rename_i hnode
    rw [hlink] at hnode
    cases hnode
  · rw [dif_pos (List.contains_iff_mem.mpr hpending)]

theorem joinRealPath_link (hname : Plain name) (hlink : t.readLink? (p ++ [name]) = some target)
    (hnew : p ++ [name] ∉ pending) {q : Location}
    (htarget : t.joinRealPath ((p ++ [name]) :: pending) (startOf p target) target = .resolved q) :
    t.joinRealPath pending p (name :: rest) = t.joinRealPath pending q rest := by
  rw [joinRealPath, if_neg hname.not_skipped, if_neg hname.ne_up]
  split
  · rename_i hnode
    rw [hlink] at hnode
    cases hnode
  · rename_i target' hlink'
    obtain rfl := Option.some.inj (hlink.symm.trans hlink')
    rw [dif_neg (hnew ∘ List.contains_iff_mem.mp), htarget]

/-- A link whose target runs into a loop. -/
theorem joinRealPath_loop (hname : Plain name) (hlink : t.readLink? (p ++ [name]) = some target)
    (hnew : p ++ [name] ∉ pending) {parts : List String}
    (htarget : t.joinRealPath ((p ++ [name]) :: pending) (startOf p target) target = .loop parts) :
    t.joinRealPath pending p (name :: rest) = .loop (joinPath parts rest) := by
  rw [joinRealPath, if_neg hname.not_skipped, if_neg hname.ne_up]
  split
  · rename_i hnode
    rw [hlink] at hnode
    cases hnode
  · rename_i target' hlink'
    obtain rfl := Option.some.inj (hlink.symm.trans hlink')
    rw [dif_neg (hnew ∘ List.contains_iff_mem.mp), htarget]

end Steps

/-! ## Where a path leads -/

/-- The path leads from `p` to `q` in so many steps. -/
inductive ResolvesIn : ℕ → Location → List String → Location → Prop where
  | nil (p : Location) : ResolvesIn 0 p [] p
  | skip {n : ℕ} {p q : Location} {name : String} {rest : List String}
      (hname : name = "" ∨ name = ".") (h : ResolvesIn n p rest q) :
      ResolvesIn (n + 1) p (name :: rest) q
  | up {n : ℕ} {p q : Location} {rest : List String} (h : ResolvesIn n p.dropLast rest q) :
      ResolvesIn (n + 1) p (".." :: rest) q
  | name {n : ℕ} {p q : Location} {name : String} {rest : List String} (hname : Plain name)
      (hnode : t.readLink? (p ++ [name]) = none) (h : ResolvesIn n (p ++ [name]) rest q) :
      ResolvesIn (n + 1) p (name :: rest) q
  | link {m n : ℕ} {p q r : Location} {name : String} {target rest : List String}
      (hname : Plain name) (hlink : t.readLink? (p ++ [name]) = some target)
      (htarget : ResolvesIn m (startOf p target) target r)
      (h : ResolvesIn n r rest q) : ResolvesIn (m + n + 1) p (name :: rest) q

/-- The path leads from `p` to `q`, without a loop of links. -/
def Resolves (p : Location) (parts : List String) (q : Location) : Prop :=
  ∃ n, t.ResolvesIn n p parts q

section Resolve

variable {t} {pending : List Location} {p q r : Location} {parts : List String} {m n : ℕ}

/-- What is resolved is where the path leads. -/
theorem resolves_of_joinRealPath (h : t.joinRealPath pending p parts = .resolved q) :
    t.Resolves p parts q := by
  fun_induction t.joinRealPath pending p parts generalizing q with
  | case1 pending p =>
      cases h
      exact ⟨0, .nil p⟩
  | case2 pending p name rest hname ih =>
      obtain ⟨n, hn⟩ := ih h
      exact ⟨n + 1, .skip hname hn⟩
  | case3 pending p rest _ ih =>
      obtain ⟨n, hn⟩ := ih h
      exact ⟨n + 1, .up hn⟩
  | case4 pending p name rest hname hdots hnode ih =>
      obtain ⟨n, hn⟩ := ih h
      rw [not_or] at hname
      exact ⟨n + 1, .name ⟨hname.1, hname.2, hdots⟩ hnode hn⟩
  | case5 => cases h
  | case6 pending p name rest hname hdots target hlink _ r htarget ihTarget ih =>
      obtain ⟨m, hm⟩ := ihTarget htarget
      obtain ⟨n, hn⟩ := ih h
      rw [not_or] at hname
      exact ⟨m + n + 1, .link ⟨hname.1, hname.2, hdots⟩ hlink hm hn⟩
  | case7 => cases h

theorem ResolvesIn.unique (h : t.ResolvesIn n p parts q) (h' : t.ResolvesIn m p parts r) :
    n = m ∧ q = r := by
  induction h generalizing m r with
  | nil p =>
      cases h'
      exact ⟨rfl, rfl⟩
  | skip hname _ ih =>
      cases h' with
      | skip _ h' =>
          obtain ⟨rfl, rfl⟩ := ih h'
          exact ⟨rfl, rfl⟩
      | up => simp at hname
      | name hplain => exact absurd hname hplain.not_skipped
      | link hplain => exact absurd hname hplain.not_skipped
  | up _ ih =>
      cases h' with
      | skip hname => simp at hname
      | up h' =>
          obtain ⟨rfl, rfl⟩ := ih h'
          exact ⟨rfl, rfl⟩
      | name hplain => exact absurd rfl hplain.ne_up
      | link hplain => exact absurd rfl hplain.ne_up
  | name hplain hnode _ ih =>
      cases h' with
      | skip hname => exact absurd hname hplain.not_skipped
      | up => exact absurd rfl hplain.ne_up
      | name _ _ h' =>
          obtain ⟨rfl, rfl⟩ := ih h'
          exact ⟨rfl, rfl⟩
      | link _ hlink =>
          rw [hnode] at hlink
          cases hlink
  | link hplain hlink _ _ ihTarget ih =>
      cases h' with
      | skip hname => exact absurd hname hplain.not_skipped
      | up => exact absurd rfl hplain.ne_up
      | name _ hnode =>
          rw [hnode] at hlink
          cases hlink
      | link _ hlink' htarget' h' =>
          obtain rfl := Option.some.inj (hlink.symm.trans hlink')
          obtain ⟨rfl, rfl⟩ := ihTarget htarget'
          obtain ⟨rfl, rfl⟩ := ih h'
          exact ⟨rfl, rfl⟩

/-- A path that leads somewhere is resolved. The links that are being resolved take at least as many
    steps as are left, so none of them comes again. -/
theorem ResolvesIn.joinRealPath (h : t.ResolvesIn n p parts q)
    (hpending : ∀ l ∈ pending, ∀ target m r, t.readLink? l = some target →
      t.ResolvesIn m (startOf l.dropLast target) target r → n ≤ m) :
    t.joinRealPath pending p parts = .resolved q := by
  induction h generalizing pending with
  | nil p => rw [FileTree.joinRealPath]
  | skip hname _ ih =>
      rw [joinRealPath_skip hname]
      exact ih fun l hl target m r hlink hr => Nat.le_of_succ_le (hpending l hl target m r hlink hr)
  | up _ ih =>
      rw [joinRealPath_up]
      exact ih fun l hl target m r hlink hr => Nat.le_of_succ_le (hpending l hl target m r hlink hr)
  | name hplain hnode _ ih =>
      rw [joinRealPath_name hplain hnode]
      exact ih fun l hl target m r hlink hr => Nat.le_of_succ_le (hpending l hl target m r hlink hr)
  | @link m n p q r name target rest hplain hlink htarget _ ihTarget ih =>
      have hstart : t.ResolvesIn m (startOf (p ++ [name]).dropLast target) target r := by
        rw [List.dropLast_concat]
        exact htarget
      have hnew : p ++ [name] ∉ pending := by
        intro hmem
        have hle := hpending _ hmem target m r hlink hstart
        omega
      have hinner : t.joinRealPath ((p ++ [name]) :: pending) (startOf p target) target =
          .resolved r := by
        apply ihTarget
        intro l hl target' m' r' hlink' hr'
        rcases List.mem_cons.mp hl with rfl | hl
        · obtain rfl := Option.some.inj (hlink.symm.trans hlink')
          exact (hstart.unique hr').1.le
        · have hle := hpending l hl target' m' r' hlink' hr'
          omega
      rw [joinRealPath_link hplain hlink hnew hinner]
      apply ih
      intro l hl target' m' r' hlink' hr'
      have hle := hpending l hl target' m' r' hlink' hr'
      omega

theorem joinRealPath_eq_resolved :
    t.joinRealPath [] p parts = .resolved q ↔ t.Resolves p parts q := by
  constructor
  · exact resolves_of_joinRealPath
  · rintro ⟨n, h⟩
    exact h.joinRealPath fun l hl => nomatch hl

/-- Where a path leads, no link is left on the way, and every name is plain. -/
theorem ResolvesIn.linkFree (h : t.ResolvesIn n p parts q) (hfree : t.LinkFree p)
    (hplain : ∀ name ∈ p, Plain name) : t.LinkFree q ∧ ∀ name ∈ q, Plain name := by
  induction h with
  | nil => exact ⟨hfree, hplain⟩
  | skip _ _ ih => exact ih hfree hplain
  | up _ ih =>
      exact ih (hfree.mono (List.dropLast_prefix _))
        fun name hname => hplain name (List.dropLast_subset _ hname)
  | @name n p q name rest hname hnode _ ih =>
      apply ih
      · intro d hd target hlink
        rcases List.prefix_concat_iff.mp hd with rfl | hd
        · unfold readLink? at hnode
          rw [hlink] at hnode
          cases hnode
        · exact hfree d hd target hlink
      · intro c hc
        rcases List.mem_append.mp hc with hc | hc
        · exact hplain c hc
        · rw [List.mem_singleton.mp hc]
          exact hname
  | @link m n p q r name target rest _ _ _ _ ihTarget ih =>
      have hstart : t.LinkFree (startOf p target) ∧ ∀ name ∈ startOf p target, Plain name := by
        unfold startOf
        split
        · refine ⟨?_, by simp⟩
          intro d hd target hlink
          rw [List.prefix_nil.mp hd] at hlink
          cases hlink
        · exact ⟨hfree, hplain⟩
      obtain ⟨hr, hrplain⟩ := ihTarget hstart.1 hstart.2
      exact ih hr hrplain

end Resolve

end FileTree

end LookAway.Base
