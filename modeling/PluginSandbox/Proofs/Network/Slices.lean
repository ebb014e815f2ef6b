import PluginSandbox.Proofs.Network.Targets

/-!
# The host found by byte offsets

The host of a target is a slice of its text. Here it is cut out at the byte
offsets of colons and brackets, where a cut fails that goes past the end or
through a character. None fails, and the host is the one of the grammar.
-/

namespace PluginSandbox.Network

/-! ## Cutting at byte offsets -/

def bytes (cs : List Char) : Nat :=
  (String.ofList cs).utf8ByteSize

/-- The text before the byte offset `n`, if a character begins or the text ends there. -/
def sliceTo? (s : String) (n : Nat) : Option String :=
  if h : String.Pos.Raw.IsValid s ⟨n⟩ then some (s.sliceTo (s.pos ⟨n⟩ h)).copy else none

def sliceFrom? (s : String) (n : Nat) : Option String :=
  if h : String.Pos.Raw.IsValid s ⟨n⟩ then some (s.sliceFrom (s.pos ⟨n⟩ h)).copy else none

def firstOffset? (mark : Char) (s : String) : Option Nat :=
  (cut? mark s.toList).map fun parts => bytes parts.1

def lastOffset? (mark : Char) (s : String) : Option Nat :=
  (cut? mark s.toList.reverse).map fun parts => bytes parts.2.reverse

def unlessBrackets (host port : String) : Option String :=
  if host.toList.any isBracket || port.toList.any isBracket then none else some host

/-- The host of `host:port` or `[host]:port`, if the target is of this form. Nothing at all is
found if a slice fails. The offset of `]` counts from behind the opening bracket. -/
def splitBySlices? (target : String) : Option (Option String) :=
  match lastOffset? ':' target with
  | none => some none
  | some colon =>
    match target.toList with
    | '[' :: rest =>
      match firstOffset? ']' (String.ofList rest) with
      | none => some none
      | some close =>
        if close + 2 ≠ colon then some none
        else do
          let host ← sliceTo? (String.ofList rest) close
          let port ← sliceFrom? target (colon + 1)
          some (unlessBrackets host port)
    | _ => do
      let host ← sliceTo? target colon
      if ':' ∈ host.toList then some none
      else do
        let port ← sliceFrom? target (colon + 1)
        some (unlessBrackets host port)

def hostBySlices? (target : String) : Option String :=
  (splitBySlices? target).map fun found =>
    found.getD (String.ofList ((inBrackets? target.toList).getD target.toList))

/-! ## Bytes -/

theorem bytes_append (cs ds : List Char) : bytes (cs ++ ds) = bytes cs + bytes ds := by
  rw [bytes, String.ofList_append, String.utf8ByteSize_append, bytes, bytes]

theorem bytes_eq_zero_iff {cs : List Char} : bytes cs = 0 ↔ cs = [] := by
  rw [bytes, String.utf8ByteSize_eq_zero_iff, ← String.ofList_nil, String.ofList_inj]

/-- Two beginnings of one text that are equally long in bytes are the same. -/
theorem append_inj_of_bytes {cs cs' ds ds' : List Char} (h : cs ++ cs' = ds ++ ds') (hbytes : bytes cs = bytes ds) :
    cs = ds ∧ cs' = ds' := by
  have hsame {as bs more : List Char} (heq : bs = as ++ more) (hlong : bytes as = bytes bs) : more = [] := by
    rw [heq, bytes_append] at hlong
    exact bytes_eq_zero_iff.mp (by omega)
  obtain ⟨more, hds, hcs'⟩ | ⟨more, hcs, hds'⟩ := List.append_eq_append_iff.mp h
  · have hmore := hsame hds hbytes
    rw [hmore, List.append_nil] at hds
    rw [hmore, List.nil_append] at hcs'
    exact ⟨hds.symm, hcs'⟩
  · have hmore := hsame hcs hbytes.symm
    rw [hmore, List.append_nil] at hcs
    rw [hmore, List.nil_append] at hds'
    exact ⟨hcs, hds'.symm⟩

/-! ## Slices that do not fail -/

section
variable {s : String} {before after : List Char} (h : s.toList = before ++ after)
include h

theorem eq_ofList_append : s = String.ofList before ++ String.ofList after := by
  rw [← String.ofList_append, ← h, String.ofList_toList]

theorem isValid_bytes : String.Pos.Raw.IsValid s ⟨bytes before⟩ :=
  String.Pos.Raw.isValid_iff_exists_append.mpr ⟨_, _, eq_ofList_append h, rfl⟩

theorem splits_bytes : (s.pos ⟨bytes before⟩ (isValid_bytes h)).Splits (String.ofList before) (String.ofList after) :=
  ⟨eq_ofList_append h, rfl⟩

theorem sliceTo?_bytes : sliceTo? s (bytes before) = some (String.ofList before) := by
  rw [sliceTo?, dif_pos (isValid_bytes h), (splits_bytes h).copy_sliceTo_eq]

theorem sliceFrom?_bytes : sliceFrom? s (bytes before) = some (String.ofList after) := by
  rw [sliceFrom?, dif_pos (isValid_bytes h), (splits_bytes h).copy_sliceFrom_eq]

end

/-! ## First and last marks -/

section
variable {mark : Char} {before after before' after' : List Char}

theorem firstOffset?_ofList (h : mark ∉ before) :
    firstOffset? mark (String.ofList (before ++ mark :: after)) = some (bytes before) := by
  rw [firstOffset?, String.toList_ofList, cut?_append h, Option.map_some]

theorem lastOffset?_eq {s : String} (h : mark ∉ after) (hs : s.toList = before ++ mark :: after) :
    lastOffset? mark s = some (bytes before) := by
  have hreverse : s.toList.reverse = after.reverse ++ mark :: before.reverse := by rw [hs]; simp
  rw [lastOffset?, hreverse, cut?_append (by simpa using h), Option.map_some, List.reverse_reverse]

theorem first_mark_unique (h : before ++ mark :: after = before' ++ mark :: after') (hbefore : mark ∉ before)
    (hbefore' : mark ∉ before') : before = before' ∧ after = after' := by
  have hcut := cut?_append hbefore after
  rw [h, cut?_append hbefore'] at hcut
  cases hcut
  exact ⟨rfl, rfl⟩

theorem last_mark_unique (h : before ++ mark :: after = before' ++ mark :: after') (hafter : mark ∉ after)
    (hafter' : mark ∉ after') : before = before' ∧ after = after' := by
  have hreverse : after.reverse ++ mark :: before.reverse = after'.reverse ++ mark :: before'.reverse := by
    simpa using congrArg List.reverse h
  obtain ⟨hafters, hbefores⟩ := first_mark_unique hreverse (by simpa using hafter) (by simpa using hafter')
  exact ⟨List.reverse_injective hbefores, List.reverse_injective hafters⟩

theorem exists_last_mark {cs : List Char} (h : mark ∈ cs) :
    ∃ before after, cs = before ++ mark :: after ∧ mark ∉ after := by
  obtain ⟨after, before, hcs, hafter⟩ := List.eq_append_cons_of_mem (List.mem_reverse.mpr h)
  refine ⟨before.reverse, after.reverse, ?_, by simpa using hafter⟩
  rw [← List.reverse_reverse cs, hcs]
  simp

end

/-! ## The same host -/

theorem unlessBrackets_ofList (host : List Char) {port : List Char} (h : ':' ∉ port) :
    unlessBrackets (String.ofList host) (String.ofList port) =
      (if port.contains ':' || host.any isBracket || port.any isBracket then none else some host).map
        String.ofList := by
  have hcolon : port.contains ':' = false := by rw [List.contains_eq_mem, decide_eq_false h]
  rw [unlessBrackets, String.toList_ofList, String.toList_ofList, hcolon, Bool.false_or]
  split
  · rfl
  · rfl

theorem hostBeforePort?_eq_none {target : List Char} (h : ∀ host, ¬ AddressedChars target host) :
    hostBeforePort? target = none := by
  rw [Option.eq_none_iff_forall_ne_some]
  exact fun host hhost => h host (hostBeforePort?_eq_some_iff.mp hhost)

theorem AddressedChars.colon_mem {target host : List Char} (h : AddressedChars target host) : ':' ∈ target := by
  obtain ⟨p, -, ⟨-, rfl⟩ | ⟨-, rfl⟩⟩ := h
  · simp
  · simp

theorem bytes_brackets (host : List Char) : bytes ('[' :: host ++ [']']) = bytes host + 2 := by
  rw [← List.singleton_append, List.append_assoc, bytes_append, bytes_append,
    show bytes ['['] = 1 by decide, show bytes [']'] = 1 by decide]
  omega

theorem bytes_append_colon (before : List Char) : bytes (before ++ [':']) = bytes before + 1 := by
  rw [bytes_append, show bytes [':'] = 1 by decide]

section
variable {target : String} {before after : List Char} (htarget : target.toList = before ++ ':' :: after)
include htarget

theorem port_slice : sliceFrom? target (bytes before + 1) = some (String.ofList after) := by
  rw [← bytes_append_colon]
  exact sliceFrom?_bytes (by rw [htarget]; simp)

variable (hafter : ':' ∉ after)
include hafter

theorem splitBySlices?_open {rest : List Char} (hopen : target.toList = '[' :: rest) :
    splitBySlices? target = some ((hostBeforePort? target.toList).map String.ofList) := by
  rw [splitBySlices?, lastOffset?_eq hafter htarget]
  simp only [hopen]
  by_cases hclose : ']' ∈ rest
  · obtain ⟨host, tail, rfl, hhost⟩ := List.eq_append_cons_of_mem hclose
    have hwhole : ('[' :: host ++ [']']) ++ tail = before ++ ':' :: after := by rw [← htarget, hopen]; simp
    rw [firstOffset?_ofList hhost]
    by_cases hmeet : bytes host + 2 = bytes before
    · -- the closing bracket stands right before the last colon
      obtain ⟨-, rfl⟩ := append_inj_of_bytes hwhole ((bytes_brackets host).trans hmeet)
      have hslice : sliceTo? (String.ofList (host ++ ']' :: ':' :: after)) (bytes host) = some (String.ofList host) :=
        sliceTo?_bytes (String.toList_ofList ..)
      simp only [hmeet, hslice, port_slice htarget, hostBeforePort?, cut?_append hhost]
      rw [if_neg (not_not.mpr rfl)]
      exact congrArg some (unlessBrackets_ofList host hafter)
    · have hnone : hostBeforePort? ('[' :: (host ++ ']' :: tail)) = none := by
        refine hostBeforePort?_eq_none fun other hother => ?_
        obtain ⟨p, hport, hbrackets, hsame⟩ := addressedChars_open_iff.mp hother
        obtain ⟨rfl, rfl⟩ := first_mark_unique hsame hhost hbrackets.2
        have hbefore := (last_mark_unique hwhole hport.1 hafter).1
        exact hmeet (by rw [← hbefore, bytes_brackets])
      simp only [hnone]
      rw [if_pos hmeet]
      rfl
  · have hfirst : firstOffset? ']' (String.ofList rest) = none := by
      rw [firstOffset?, String.toList_ofList, cut?_eq_none_iff.mpr hclose, Option.map_none]
    have hnone : hostBeforePort? ('[' :: rest) = none := by
      refine hostBeforePort?_eq_none fun other hother => ?_
      obtain ⟨p, -, -, hrest⟩ := addressedChars_open_iff.mp hother
      exact hclose (by rw [hrest]; simp)
    simp only [hfirst, hnone]
    rfl

theorem splitBySlices?_plain (hopen : ∀ rest, target.toList ≠ '[' :: rest) :
    splitBySlices? target = some ((hostBeforePort? target.toList).map String.ofList) := by
  rw [splitBySlices?, lastOffset?_eq hafter htarget]
  simp only [sliceTo?_bytes htarget, port_slice htarget]
  by_cases hcolon : ':' ∈ before
  · have hnone : hostBeforePort? target.toList = none := by
      refine hostBeforePort?_eq_none fun other hother => ?_
      obtain ⟨p, hport, hhost, hsame⟩ := (addressedChars_plain_iff hopen).mp hother
      have hbefore := (last_mark_unique (htarget.symm.trans hsame) hafter hport.1).1
      exact hhost.1 (hbefore ▸ hcolon)
    rw [hnone]
    exact if_pos (by rwa [String.toList_ofList])
  · rw [hostBeforePort?.eq_2 _ hopen, htarget, cut?_append hcolon]
    refine (if_neg (by rwa [String.toList_ofList])).trans ?_
    exact congrArg some (unlessBrackets_ofList before hafter)

end

theorem splitBySlices?_eq (target : String) :
    splitBySlices? target = some ((hostBeforePort? target.toList).map String.ofList) := by
  by_cases hcolon : ':' ∈ target.toList
  · obtain ⟨before, after, htarget, hafter⟩ := exists_last_mark hcolon
    by_cases hopen : ∃ rest, target.toList = '[' :: rest
    · obtain ⟨rest, hrest⟩ := hopen
      exact splitBySlices?_open htarget hafter hrest
    · exact splitBySlices?_plain htarget hafter fun rest hrest => hopen ⟨rest, hrest⟩
  · have hnone : cut? ':' target.toList.reverse = none := cut?_eq_none_iff.mpr (by simpa using hcolon)
    rw [splitBySlices?, lastOffset?, hnone, hostBeforePort?_eq_none fun host hhost => hcolon hhost.colon_mem]
    rfl

theorem hostBySlices?_eq (target : String) : hostBySlices? target = some (host target) := by
  rw [hostBySlices?, splitBySlices?_eq, Option.map_some, host, hostChars]
  cases hostBeforePort? target.toList with
  | some found => rfl
  | none => rfl

/-- **The host is parsed by its grammar,** its slices do not fail, and a host written with a port is
read back. -/
theorem host_parses_grammar (target : String) :
    (∀ h, host target = h ↔ IsHostOf target h) ∧ hostBySlices? target = some (host target) ∧
      ∀ h p : String, NoBrackets h.toList → NoMarks p.toList →
        (':' ∉ h.toList → host (h ++ ":" ++ p) = h) ∧ host ("[" ++ h ++ "]:" ++ p) = h := by
  refine ⟨fun h => host_eq_iff, hostBySlices?_eq target, fun h p hhost hport => ⟨fun hcolon => ?_, ?_⟩⟩
  · exact host_eq_iff.mpr (.inl (.plain ⟨hcolon, hhost⟩ hport))
  · exact host_eq_iff.mpr (.inl (.bracketed hhost hport))

theorem host_parses_grammar_local :
    hostBySlices? "[é]:b]" = some "é]:b" ∧ IsHostOf "[é]:b]" "é]:b" ∧
      NoBrackets "fe80::1%é".toList ∧ NoMarks "443".toList ∧
      host "[fe80::1%é]:443" = "fe80::1%é" ∧ host "[fe80::1%é" = "[fe80::1%é" := by
  obtain ⟨hgrammar, hslices, hpair⟩ := host_parses_grammar "[é]:b]"
  have hhost : host "[é]:b]" = "é]:b" := by decide
  have hbrackets : NoBrackets "fe80::1%é".toList := by unfold NoBrackets; decide
  have hmarks : NoMarks "443".toList := by unfold NoMarks NoBrackets; decide
  rw [hhost] at hslices
  exact ⟨hslices, (hgrammar _).mp hhost, hbrackets, hmarks, (hpair _ _ hbrackets hmarks).2, by decide⟩

end PluginSandbox.Network
