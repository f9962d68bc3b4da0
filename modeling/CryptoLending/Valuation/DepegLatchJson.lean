import CryptoLending.Lib.Bytes
import CryptoLending.Lib.CanonicalTree
import CryptoLending.Lib.Transaction

namespace CryptoLending.Valuation.DepegLatchJson

open Lib Lib.JsValue Lib.JsonTree Lib.JsString Lib.Sorting Lib.CanonicalTree

inductive StablecoinDepegLatchValidationCode where
  | invalidDepegLatchInput
  | invalidDepegLatchAsset
  | valuationDidNotDetectDepeg
  | depegEvidenceFingerprintMismatch
  | invalidDepegRecoveryInput
  | recoveryNotCleared
  | invalidDepegRecoveryAuthorization
  | depegRecoveryAuthorizationMismatch
  deriving DecidableEq

section Encoding

/-- A step that counts the nodes it visits against those that remain. -/
abbrev Encoder (α : Type) := StateT Nat (Except StablecoinDepegLatchValidationCode) α

def invalid {α : Type} : Encoder α := throw .invalidDepegLatchInput

def visitNode : Encoder Unit := do
  let remainingNodes ← get
  if remainingNodes = 0 then invalid else set (remainingNodes - 1)

def liftOption {α : Type} : Option α → Encoder α
  | some a => pure a
  | none => invalid

def isForbidden (c : Char) : Bool := c == '\x00' || c == '\r' || c == '\n'

/-- The text of a value with sorted keys. The first argument is the number of levels left. -/
def encodeNode : Nat → Value → Encoder JsString
  | 0, _ => invalid
  | level + 1, candidate => do
    visitNode
    match candidate with
    | .null => return stringify .null
    | .boolean value => return stringify (.boolean value)
    | .string s =>
      if utf16Length s > 4096 ∨ s.toList.any isForbidden = true then invalid
      else return stringify (text s)
    | .integer n =>
      if 0 ≤ n ∧ n < 2 ^ 53 then return stringify (natural n.toNat) else invalid
    | .array items =>
      -- Arrays with other items than plain data do not pass the readers that come before.
      let values ← liftOption (exactArray (.array items) 0 32)
      let texts ← values.mapM (encodeNode level)
      return bracketed '[' ']' texts
    | .object _ ps =>
      if ps.length > 64 then invalid
      else
        let fields ← liftOption (ownFields ps)
        let entries ← (sortBy compareKeys fields).mapM fun f => do
          let value ← encodeNode level f.2
          return quote (ofString f.1) ++ unit ':' :: value
        return bracketed '\x7b' '\x7d' entries
    | _ => invalid

def canonicalJson (v : Value) : Except StablecoinDepegLatchValidationCode JsString := do
  let (json, _) ← (encodeNode 13 v).run 512
  return json

end Encoding

section Trees

variable {α β : Type}

theorem encoder_bind_ok {x : Encoder α} {f : α → Encoder β} {s : Nat} {r : β × Nat} :
    (x >>= f).run s = .ok r ↔ ∃ a s', x.run s = .ok (a, s') ∧ (f a).run s' = .ok r := by
  rw [StateT.run_bind, except_bind_ok]
  constructor
  · rintro ⟨⟨a, s'⟩, hx, hf⟩
    exact ⟨a, s', hx, hf⟩
  · rintro ⟨a, s', hx, hf⟩
    exact ⟨(a, s'), hx, hf⟩

theorem encoder_pure_ok {a : α} {s : Nat} {r : α × Nat} :
    (pure a : Encoder α).run s = .ok r ↔ r = (a, s) := by
  rw [StateT.run_pure]
  constructor
  · intro h
    exact (Except.ok.inj h).symm
  · rintro rfl
    rfl

theorem invalid_ne_ok {s : Nat} {r : α × Nat} : (invalid : Encoder α).run s ≠ .ok r :=
  fun h => (by cases h)

theorem liftOption_ok {o : Option α} {s : Nat} {r : α × Nat} :
    (liftOption o).run s = .ok r ↔ o = some r.1 ∧ r.2 = s := by
  cases o with
  | none => exact ⟨fun h => absurd h invalid_ne_ok, fun h => (by cases h.1)⟩
  | some a =>
    rw [liftOption, encoder_pure_ok, Option.some.injEq]
    constructor
    · rintro rfl
      exact ⟨rfl, rfl⟩
    · rintro ⟨rfl, rfl⟩
      rfl

theorem encoder_mapM_ok {f : α → Encoder β} {l : List α} {s : Nat} {r : List β × Nat}
    (h : (l.mapM f).run s = .ok r) :
    List.Forall₂ (fun a b => ∃ s s', (f a).run s = .ok (b, s')) l r.1 := by
  induction l generalizing s r with
  | nil =>
    rw [List.mapM_nil, encoder_pure_ok] at h
    rw [h]
    exact .nil
  | cons a l ih =>
    rw [List.mapM_cons] at h
    obtain ⟨b, s', hb, h⟩ := encoder_bind_ok.1 h
    obtain ⟨bs, s'', hbs, h⟩ := encoder_bind_ok.1 h
    rw [encoder_pure_ok] at h
    rw [h]
    exact .cons ⟨s, s', hb⟩ (ih hbs)

theorem forall₂_factor {γ : Type} {R : α → β → Prop} {S : α → γ → Prop} {g : γ → β}
    (hR : ∀ a b, R a b → ∃ c, S a c ∧ b = g c) {l : List α} {m : List β}
    (h : List.Forall₂ R l m) : ∃ n, List.Forall₂ S l n ∧ m = n.map g := by
  induction h with
  | nil => exact ⟨[], .nil, rfl⟩
  | cons hab _ ih =>
    obtain ⟨c, hac, rfl⟩ := hR _ _ hab
    obtain ⟨n, hn, rfl⟩ := ih
    exact ⟨c :: n, .cons hac hn, rfl⟩

/-- The text is that of the value's tree. -/
theorem encodeNode_ok {level : Nat} {v : Value} {s : Nat} {r : JsString × Nat}
    (h : (encodeNode level v).run s = .ok r) :
    ∃ t, canonicalTree level v = some t ∧ r.1 = stringify t := by
  induction level generalizing v s r with
  | zero => exact absurd h invalid_ne_ok
  | succ level ih =>
    obtain ⟨_, s', -, h⟩ := encoder_bind_ok.1 h
    cases v with
    | null =>
      rw [encoder_pure_ok] at h
      exact ⟨_, rfl, by rw [h]⟩
    | boolean value =>
      rw [encoder_pure_ok] at h
      exact ⟨_, rfl, by rw [h]⟩
    | string t =>
      dsimp only at h
      split at h
      · exact absurd h invalid_ne_ok
      · rw [encoder_pure_ok] at h
        exact ⟨_, rfl, by rw [h]⟩
    | integer n =>
      dsimp only at h
      split at h
      · rename_i hn
        rw [encoder_pure_ok] at h
        exact ⟨_, if_pos hn, by rw [h]⟩
      · exact absurd h invalid_ne_ok
    | array items =>
      obtain ⟨values, s₁, hvalues, h⟩ := encoder_bind_ok.1 h
      obtain ⟨texts, s₂, htexts, h⟩ := encoder_bind_ok.1 h
      rw [encoder_pure_ok] at h
      obtain ⟨hitems, -⟩ := exactArray_eq_some.mp (liftOption_ok.1 hvalues).1
      have hread : exactArray (.array items) 0 items.length = some values := by
        obtain rfl := Value.array.inj hitems
        exact exactArray_eq_some.mpr ⟨rfl, Nat.zero_le _, by rw [List.length_map]⟩
      have htree : ∀ v x, (∃ s s', (encodeNode level v).run s = .ok (x, s')) →
          ∃ t, canonicalTree level v = some t ∧ x = stringify t := by
        rintro v x ⟨s, s', hx⟩
        exact ih hx
      obtain ⟨trees, htrees, hlist⟩ := forall₂_factor htree (encoder_mapM_ok htexts)
      refine ⟨.array trees, ?_, ?_⟩
      · rw [canonicalTree]
        exact Option.bind_eq_some_iff.mpr ⟨values, hread, Option.bind_eq_some_iff.mpr
          ⟨trees, ListOption.mapM_eq_some.mpr htrees, rfl⟩⟩
      · rw [h, stringify, itemTexts_eq]
        exact congrArg (bracketed '[' ']') hlist
    | object proxy ps =>
      dsimp only at h
      split at h
      · exact absurd h invalid_ne_ok
      · obtain ⟨fields, s₁, hfields, h⟩ := encoder_bind_ok.1 h
        obtain ⟨entries, s₂, hentries, h⟩ := encoder_bind_ok.1 h
        rw [encoder_pure_ok] at h
        have hmember : ∀ (f : String × Value) x,
            (∃ s s', (do
              let value ← encodeNode level f.2
              return quote (ofString f.1) ++ unit ':' :: value : Encoder JsString).run s =
                .ok (x, s')) →
            ∃ m, (canonicalTree level f.2).map (ofString f.1, ·) = some m ∧ x = memberText m := by
          rintro f x ⟨s, s', hx⟩
          obtain ⟨value, s₃, hvalue, hx⟩ := encoder_bind_ok.1 hx
          obtain ⟨t, ht, htext⟩ := ih hvalue
          rw [encoder_pure_ok, Prod.mk.injEq] at hx
          refine ⟨(ofString f.1, t), by rw [ht, Option.map_some], ?_⟩
          rw [hx.1, memberText]
          exact congrArg (fun value => quote (ofString f.1) ++ unit ':' :: value) htext
        obtain ⟨members, hmembers, hlist⟩ := forall₂_factor hmember (encoder_mapM_ok hentries)
        refine ⟨.object members, ?_, ?_⟩
        · rw [canonicalTree]
          exact Option.bind_eq_some_iff.mpr ⟨fields, (liftOption_ok.1 hfields).1,
            Option.bind_eq_some_iff.mpr ⟨members, ListOption.mapM_eq_some.mpr hmembers, rfl⟩⟩
        · rw [h, stringify, memberTexts_eq]
          exact congrArg (bracketed '\x7b' '\x7d') hlist
    | undefined | nonInteger | bigint | date | other => exact absurd h invalid_ne_ok

theorem canonicalJson_ok {v : Value} {json : JsString} (h : canonicalJson v = .ok json) :
    ∃ t, canonicalTree 13 v = some t ∧ json = stringify t := by
  obtain ⟨r, hr, h⟩ := except_bind_ok.mp h
  obtain ⟨t, ht, htext⟩ := encodeNode_ok hr
  exact ⟨t, ht, (Except.ok.inj h).symm.trans htext⟩

/-- Values with the same text differ in the order of keys only. -/
theorem rearranged_of_canonicalJson {v w : Value} {json : JsString}
    (hv : canonicalJson v = .ok json) (hw : canonicalJson w = .ok json) : Rearranged v w := by
  obtain ⟨t, ht, htext⟩ := canonicalJson_ok hv
  obtain ⟨u, hu, hutext⟩ := canonicalJson_ok hw
  have htree : t = u := (listed_of_canonicalTree ht).stringify_inj (listed_of_canonicalTree hu)
    (htext.symm.trans hutext)
  exact rearranged_of_canonicalTree ht (htree ▸ hu)

end Trees

section Order

theorem encoder_mapM_related {α β γ : Type} {R : α → β → Prop} {f : α → Encoder γ}
    {g : β → Encoder γ} (hR : ∀ a b, R a b → f a = g b) {l : List α} {m : List β}
    (h : List.Forall₂ R l m) : l.mapM f = m.mapM g := by
  induction h with
  | nil => rfl
  | cons hab _ ih => rw [List.mapM_cons, List.mapM_cons, hR _ _ hab, ih]

theorem liftOption_related {α β : Type} {R : α → α → Prop} {o p : Option α}
    (h : Option.Rel R o p) {f g : α → Encoder β} (hf : ∀ a b, R a b → f a = g b) :
    (liftOption o >>= f) = (liftOption p >>= g) := by
  cases h with
  | none => rfl
  | some hab =>
    rw [liftOption, liftOption, pure_bind, pure_bind]
    exact hf _ _ hab

theorem encodeNode_array (level : Nat) (items : List Value) :
    encodeNode (level + 1) (ofItems items) = (visitNode >>= fun _ =>
      liftOption (exactArray (ofItems items) 0 32) >>= fun values =>
      values.mapM (encodeNode level) >>= fun texts => pure (bracketed '[' ']' texts)) := rfl

theorem encodeNode_object (level : Nat) (proxy : Bool) (ps : List (Key × Property Value)) :
    encodeNode (level + 1) (.object proxy ps) = (visitNode >>= fun _ =>
      if ps.length > 64 then invalid
      else liftOption (ownFields ps) >>= fun fields =>
        (sortBy compareKeys fields).mapM (fun f => do
          let value ← encodeNode level f.2
          return quote (ofString f.1) ++ unit ':' :: value) >>= fun entries =>
        pure (bracketed '\x7b' '\x7d' entries)) := rfl

/-- The text does not show the order of keys. -/
theorem encodeNode_rearranged {level : Nat} {v w : Value} (h : Rearranged v w) :
    encodeNode level v = encodeNode level w := by
  induction level generalizing v w with
  | zero => rfl
  | succ level ih =>
    cases h with
    | same => rfl
    | items h =>
      rw [encodeNode_array, encodeNode_array]
      refine bind_congr fun _ => ?_
      apply liftOption_related ((Rearranged.items h).exactArray 0 32)
      intro values values' hvalues
      rw [encoder_mapM_related (fun v w hvw => ih hvw) hvalues]
    | object h hp hk =>
      have hlength := h.length_eq.trans hp.length_eq
      rw [encodeNode_object, encodeNode_object, hlength]
      refine bind_congr fun _ => ?_
      split
      · rfl
      · apply liftOption_related (sortedFields_rearranged h hp)
        intro fields fields' hfields
        rw [encoder_mapM_related (fun f g hfg => ?_) hfields]
        rw [hfg.1, ih hfg.2]

theorem canonicalJson_rearranged {v w : Value} (h : Rearranged v w) :
    canonicalJson v = canonicalJson w := by
  rw [canonicalJson, canonicalJson, encodeNode_rearranged h]

end Order

section Budget

/-- A text of few bytes without control characters up to the carriage return. -/
def isPlain (s : String) : Bool :=
  (Bytes.utf8 s).length ≤ 2048 && (Bytes.utf8 s).all fun b => 13 < b.toNat

theorem length_encode_le (cs : List Char) :
    (encode cs).length ≤ 2 * (cs.flatMap String.utf8EncodeChar).length := by
  induction cs with
  | nil => simp [encode]
  | cons c cs ih =>
    have hunits : (unitsOf c).length ≤ 2 := by
      unfold unitsOf
      split <;> simp
    have hbytes := c.utf8Size_pos
    rw [encode] at ih
    rw [encode, List.flatMap_cons, List.flatMap_cons, List.length_append, List.length_append,
      String.length_utf8EncodeChar]
    omega

theorem isPlain_accepted {s : String} (h : isPlain s = true) :
    ¬(utf16Length s > 4096 ∨ s.toList.any isForbidden = true) := by
  simp only [isPlain, Bytes.utf8_eq_flatMap, Bool.and_eq_true, decide_eq_true_iff,
    List.all_eq_true, List.mem_flatMap] at h
  obtain ⟨hlength, hbytes⟩ := h
  rw [not_or]
  constructor
  · have hunits := length_encode_le s.toList
    rw [utf16Length]
    omega
  · intro hany
    obtain ⟨c, hc, hforbidden⟩ := List.any_eq_true.mp hany
    simp only [isForbidden, Bool.or_eq_true, beq_iff_eq] at hforbidden
    obtain (rfl | rfl) | rfl := hforbidden
    · exact absurd (hbytes 0 ⟨_, hc, by decide⟩) (by decide)
    · exact absurd (hbytes 13 ⟨_, hc, by decide⟩) (by decide)
    · exact absurd (hbytes 10 ⟨_, hc, by decide⟩) (by decide)

/-- A value whose parts the encoder accepts. -/
def isEncodable : Nat → Value → Bool
  | 0, _ => false
  | level + 1, candidate =>
    match candidate with
    | .null => true
    | .boolean _ => true
    | .string s => isPlain s
    | .integer n => 0 ≤ n && n < 2 ^ 53
    | .array items => (exactArray (.array items) 0 32).any (·.all (isEncodable level))
    | .object _ ps => ps.length ≤ 64 && (ownFields ps).any (·.all fun f => isEncodable level f.2)
    | _ => false

/-- The nodes of a value. -/
def nodeCount : Nat → Value → Nat
  | 0, _ => 0
  | level + 1, candidate =>
    match candidate with
    | .array items =>
      (((exactArray (.array items) 0 32).getD []).map (nodeCount level)).sum + 1
    | .object _ ps => (((ownFields ps).getD []).map fun f => nodeCount level f.2).sum + 1
    | _ => 1

theorem visitNode_run (n : Nat) : visitNode.run (n + 1) = .ok ((), n) := rfl

theorem encoder_mapM_run {α β : Type} {f : α → Encoder β} {count : α → Nat} {l : List α}
    (h : ∀ a ∈ l, ∀ n, ∃ b, (f a).run (count a + n) = .ok (b, n)) (n : Nat) :
    ∃ bs, (l.mapM f).run ((l.map count).sum + n) = .ok (bs, n) := by
  induction l with
  | nil =>
    refine ⟨[], ?_⟩
    rw [List.map_nil, List.sum_nil, Nat.zero_add]
    rfl
  | cons a l ih =>
    obtain ⟨b, hb⟩ := h a List.mem_cons_self ((l.map count).sum + n)
    obtain ⟨bs, hbs⟩ := ih fun a' ha' => h a' (List.mem_cons_of_mem _ ha')
    refine ⟨b :: bs, ?_⟩
    rw [List.map_cons, List.sum_cons, Nat.add_assoc, List.mapM_cons]
    exact encoder_bind_ok.2 ⟨b, _, hb, encoder_bind_ok.2 ⟨bs, _, hbs, rfl⟩⟩

/-- The encoder accepts an encodable value for which enough nodes remain. -/
theorem encodeNode_run {level : Nat} {v : Value} (h : isEncodable level v = true) (n : Nat) :
    ∃ json, (encodeNode level v).run (nodeCount level v + n) = .ok (json, n) := by
  induction level generalizing v n with
  | zero => cases h
  | succ level ih =>
    cases v with
    | null => exact ⟨stringify .null, by rw [Nat.add_comm _ n]; rfl⟩
    | boolean value => exact ⟨stringify (.boolean value), by rw [Nat.add_comm _ n]; rfl⟩
    | string s =>
      refine ⟨stringify (text s), ?_⟩
      rw [Nat.add_comm _ n]
      refine encoder_bind_ok.2 ⟨(), n, visitNode_run n, ?_⟩
      dsimp only
      rw [if_neg (isPlain_accepted h)]
      rfl
    | integer m =>
      simp only [isEncodable, Bool.and_eq_true, decide_eq_true_iff] at h
      refine ⟨stringify (natural m.toNat), ?_⟩
      rw [Nat.add_comm _ n]
      refine encoder_bind_ok.2 ⟨(), n, visitNode_run n, ?_⟩
      dsimp only
      rw [if_pos h]
      rfl
    | array items =>
      simp only [isEncodable, Option.any_eq_true, List.all_eq_true] at h
      obtain ⟨values, hvalues, h⟩ := h
      obtain ⟨texts, htexts⟩ := encoder_mapM_run (fun v hv n => ih (h v hv) n) n
      refine ⟨bracketed '[' ']' texts, ?_⟩
      rw [nodeCount, hvalues, Option.getD_some, Nat.add_right_comm]
      refine encoder_bind_ok.2 ⟨(), _, visitNode_run _, ?_⟩
      dsimp only
      rw [hvalues]
      exact encoder_bind_ok.2 ⟨values, _, rfl, encoder_bind_ok.2 ⟨texts, n, htexts, rfl⟩⟩
    | object proxy ps =>
      simp only [isEncodable, Bool.and_eq_true, decide_eq_true_iff, Option.any_eq_true,
        List.all_eq_true] at h
      obtain ⟨hlength, fields, hfields, h⟩ := h
      have hentry : ∀ f ∈ sortBy compareKeys fields, ∀ n, ∃ entry, (do
          let value ← encodeNode level f.2
          return quote (ofString f.1) ++ unit ':' :: value : Encoder JsString).run
            (nodeCount level f.2 + n) = .ok (entry, n) := by
        intro f hf n
        obtain ⟨value, hvalue⟩ := ih (h f (mem_sortBy.mp hf)) n
        exact ⟨_, encoder_bind_ok.2 ⟨value, n, hvalue, rfl⟩⟩
      obtain ⟨entries, hentries⟩ := encoder_mapM_run hentry n
      have hsum := ((sortBy_perm compareKeys fields).map fun f => nodeCount level f.2).sum_eq
      refine ⟨bracketed '\x7b' '\x7d' entries, ?_⟩
      rw [nodeCount, hfields, Option.getD_some, Nat.add_right_comm, ← hsum]
      refine encoder_bind_ok.2 ⟨(), _, visitNode_run _, ?_⟩
      dsimp only
      rw [if_neg (by omega), hfields]
      exact encoder_bind_ok.2 ⟨fields, _, rfl, encoder_bind_ok.2 ⟨entries, n, hentries, rfl⟩⟩
    | undefined | nonInteger | bigint | date | other => cases h

theorem canonicalJson_isOk {v : Value} (h : isEncodable 13 v = true) (hn : nodeCount 13 v ≤ 512) :
    ∃ json, canonicalJson v = .ok json := by
  obtain ⟨json, hjson⟩ := encodeNode_run h (512 - nodeCount 13 v)
  rw [Nat.add_sub_cancel' hn] at hjson
  exact ⟨json, except_bind_ok.mpr ⟨_, hjson, rfl⟩⟩

end Budget

end CryptoLending.Valuation.DepegLatchJson
