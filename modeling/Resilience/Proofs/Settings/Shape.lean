import Mathlib.Logic.Relation
import Resilience.Proofs.Document.Reshaping
import Resilience.Proofs.Settings.Facets

/-!
# The shape of a settings text

Settings are read from the members of an object, and their sections from the members of objects
inside it. Where a member stands, and what members of other names stand beside it, makes no
difference, and a member that is missing leaves its default. This is so before anything is coerced :
coercion sees the settings as a whole and not the order they were written in
(`shape_makes_no_difference`).

A member of another name must have a name, for its name is read before it is passed over. A text
with a lone surrogate is none, though it may stand anywhere inside the member
(`lone_surrogate_is_no_name`).
-/

namespace Resilience

open Document (Facet Loads Within Omits Vacant HasMembers)

namespace Settings

/-! ## Sections -/

theorem ofDocument_eq : ofDocument = Document.asRecord "Settings" (facets.map Facet.field) {} := rfl

theorem cacheFacet_nests : cacheFacet.Nests {} Cache.Config.facets :=
  ⟨fun _ _ => rfl, Cache.Config.layout_facets, "CacheConfig", rfl⟩

theorem rateLimitFacet_nests : rateLimitFacet.Nests {} Rate.Config.facets :=
  ⟨fun _ _ => rfl, Rate.Config.layout_facets, "RateLimitConfig", rfl⟩

theorem retryFacet_nests : retryFacet.Nests {} Retry.Config.facets :=
  ⟨fun _ _ => rfl, Retry.Config.layout_facets, "RetryConfig", rfl⟩

theorem mem_facets : cacheFacet ∈ facets ∧ rateLimitFacet ∈ facets ∧ retryFacet ∈ facets := by
  simp [facets]

/-! ## Texts -/

/-- The object of the settings is reshaped, or that of a section. -/
def Reshaped (t t' : String) : Prop :=
  Document.Reshaped (fields.map (·.name)) t t' ∨
    Within "cache" (Document.Reshaped (Cache.Config.fields.map (·.name))) t t' ∨
    Within "rate_limit" (Document.Reshaped (Rate.Config.fields.map (·.name))) t t' ∨
    Within "retry" (Document.Reshaped (Retry.Config.fields.map (·.name))) t t'

section

variable {t t' : String} {s raw : Settings}

theorem read_of_loads (h : Loads ofDocument t raw) : read t = .ok raw.coerced := by
  rw [read, h.readAs_eq, Except.map]

/-- Another shape of the object does not change what it holds. -/
theorem loads_reshaped (h : Loads ofDocument t raw) (hshape : Reshaped t t') :
    Loads ofDocument t' raw := by
  obtain ⟨hcache, hrateLimit, hretry⟩ := mem_facets
  rw [ofDocument_eq] at h ⊢
  rcases hshape with hshape | hshape | hshape | hshape
  · exact h.reshaped layout_facets hshape
  · exact h.reshaped_within layout_facets hcache cacheFacet_nests hshape
  · exact h.reshaped_within layout_facets hrateLimit rateLimitFacet_nests hshape
  · exact h.reshaped_within layout_facets hretry retryFacet_nests hshape

theorem loads_vacant (h : Loads ofDocument t raw) {name : String}
    (hname : name ∈ ["cache", "rate_limit", "retry"])
    (hvacant : Vacant name t t' ∨ Vacant name t' t) : Loads ofDocument t' raw := by
  have hsection : ∀ {p : Facet Settings} {inner : List (Facet p.α)}, p ∈ facets → p.Nests {} inner →
      Vacant p.name t t' ∨ Vacant p.name t' t → Loads ofDocument t' raw := by
    intro p inner hp hinner hvacant
    rw [ofDocument_eq] at h ⊢
    rcases hvacant with hvacant | hvacant
    · exact (Loads.vacant_iff layout_facets hp hinner hvacant).1 h
    · exact (Loads.vacant_iff layout_facets hp hinner hvacant).2 h
  obtain ⟨hcache, hrateLimit, hretry⟩ := mem_facets
  simp only [List.mem_cons, List.not_mem_nil, or_false] at hname
  obtain rfl | rfl | rfl := hname
  · exact hsection hcache cacheFacet_nests hvacant
  · exact hsection hrateLimit rateLimitFacet_nests hvacant
  · exact hsection hretry retryFacet_nests hvacant

/-- However the text of accepted settings is reshaped, it holds the same settings. Without one of
its members, or of those of a section, it holds what was read before coercion with the default in
the member's place, coerced. A section that is absent is an empty one. -/
theorem shape_makes_no_difference {es : List Document.Entry} (hobject : HasMembers t es)
    (h : read t = .ok s) :
    ∃ raw, Document.readAs ofDocument t = .ok raw ∧ raw.coerced = s ∧ ∀ t',
      (Relation.ReflTransGen Reshaped t t' → read t' = .ok s) ∧
      (∀ p ∈ facets, Omits p.name t t' → read t' = .ok (p.reset {} raw).coerced) ∧
      (∀ p ∈ Cache.Config.facets, Within "cache" (Omits p.name) t t' →
        read t' = .ok { raw with cache := p.reset {} raw.cache }.coerced) ∧
      (∀ p ∈ Rate.Config.facets, Within "rate_limit" (Omits p.name) t t' →
        read t' = .ok { raw with rateLimit := p.reset {} raw.rateLimit }.coerced) ∧
      (∀ p ∈ Retry.Config.facets, Within "retry" (Omits p.name) t t' →
        read t' = .ok { raw with retry := p.reset {} raw.retry }.coerced) ∧
      ∀ name ∈ ["cache", "rate_limit", "retry"], Vacant name t t' ∨ Vacant name t' t →
        read t' = .ok s := by
  obtain ⟨raw, hraw, rfl⟩ := Document.exists_of_map_eq_ok h
  have hloads : Loads ofDocument t raw := hobject.loads_of_readAs hraw
  obtain ⟨hcache, hrateLimit, hretry⟩ := mem_facets
  refine ⟨raw, hraw, rfl, fun t' => ⟨?_, ?_, ?_, ?_, ?_, ?_⟩⟩
  · intro hshape
    have hshaped : Loads ofDocument t' raw := by
      induction hshape with
      | refl => exact hloads
      | tail _ hstep ih => exact loads_reshaped ih hstep
    exact read_of_loads hshaped
  · intro p hp homits
    exact read_of_loads (hloads.omits layout_facets hp homits)
  · intro p hp homits
    exact read_of_loads (hloads.omits_within layout_facets hcache cacheFacet_nests hp homits)
  · intro p hp homits
    exact read_of_loads
      (hloads.omits_within layout_facets hrateLimit rateLimitFacet_nests hp homits)
  · intro p hp homits
    exact read_of_loads (hloads.omits_within layout_facets hretry retryFacet_nests hp homits)
  · intro name hname hvacant
    exact read_of_loads (loads_vacant hloads hname hvacant)

/-- A member beside a section is moved behind it. In the section a member of an unknown name is put
in, with a lone surrogate inside, or the only member is taken out. -/
theorem shape_makes_no_difference_in_section :
    ∃ s, read "\x7b\"server_port\":8080,\"cache\":\x7b\"max_size\":5\x7d\x7d" = .ok s ∧
      s.port = 8080 ∧ s.cache.maxSize = 5 ∧
      read "\x7b\"cache\":\x7b\"x\":[\"\\udfff\"],\"max_size\":5\x7d,\"server_port\":8080\x7d" =
        .ok s ∧
      ∃ s', read "\x7b\"server_port\":8080,\"cache\":\x7b\x7d\x7d" = .ok s' ∧
        s'.port = 8080 ∧ s'.cache.maxSize = 1000 := by
  -- The members as they are written.
  let port : Document.Entry := ⟨"\"server_port\"", "8080"⟩
  let size : Document.Entry := ⟨"\"max_size\"", "5"⟩
  let odd : Document.Entry := ⟨"\"x\"", Document.arrayText "" ["\"\\udfff\""]⟩
  let cache (es : List Document.Entry) : Document.Entry :=
    ⟨"\"cache\"", Document.objectText "" es⟩
  have hport : port.WellFormed :=
    (Document.names_of_plain "server_port" rfl).entry
      (Document.wellFormed_of_digits ['0', '8', '0'] (c := '8') (by decide) rfl)
  have hsizeName : Document.Names size.key "max_size" := Document.names_of_plain "max_size" rfl
  have hsize : size.WellFormed :=
    hsizeName.entry (Document.wellFormed_of_digits [] (c := '5') (by decide) rfl)
  have hoddName : Document.Names odd.key "x" := Document.names_of_plain "x" rfl
  have hodd : odd.WellFormed := by
    have htext : Document.WellFormed "\"\\udfff\"" :=
      .text ⟨"", "", ['\\', 'u', 'd', 'f', 'f', 'f'], Document.blank_empty, Document.blank_empty,
        .unit rfl .nil, rfl⟩
    exact hoddName.entry (.array Document.blank_empty (by simpa using htext))
  have hcacheName : ∀ es, Document.Names (cache es).key "cache" := fun _ =>
    Document.names_of_plain "cache" rfl
  have hcache : ∀ es : List Document.Entry, (∀ e ∈ es, e.WellFormed) → (cache es).WellFormed :=
    fun es hes => (hcacheName es).entry
      (.object Document.blank_empty (fun e he => (hes e he).key) fun e he => (hes e he).value)
  have hsizes : ∀ e ∈ [size], e.WellFormed := by simpa using hsize
  have hodds : ∀ e ∈ [odd, size], e.WellFormed := by simpa using ⟨hodd, hsize⟩
  have hobject : ∀ es, (∀ e ∈ es, e.WellFormed) →
      HasMembers (Document.objectText "" [port, cache es]) [port, cache es] := fun es hes =>
    Document.hasMembers_objectText (by simpa using ⟨hport, hcache es hes⟩)
  have hread : ((read (Document.objectText "" [port, cache [size]])).toOption.map fun s =>
      (s.port, s.cache.maxSize)) = some (8080, 5) := by decide +kernel
  obtain ⟨s, hs, hvalues⟩ := Option.map_eq_some_iff.1 hread
  obtain ⟨hs_port, hs_size⟩ := Prod.mk.inj hvalues
  obtain ⟨raw, -, rfl, hshape⟩ :=
    shape_makes_no_difference (hobject _ hsizes) (Document.eq_ok_of_toOption hs)
  have hinserted : Reshaped (Document.objectText "" [port, cache [size]])
      (Document.objectText "" [port, cache [odd, size]]) := by
    refine .inr (.inl ⟨[port], cache [size], [], _, hcacheName _, ?_, hobject _ hsizes,
      hobject _ hodds⟩)
    exact Document.reshaped_of_insertion [] [size] hoddName (by decide)
      (Document.hasMembers_objectText hsizes) (Document.hasMembers_objectText hodds)
  have hmoved : Reshaped (Document.objectText "" [port, cache [odd, size]])
      (Document.objectText "" [cache [odd, size], port]) :=
    .inl (Document.reshaped_of_perm (hobject _ hodds)
      (Document.hasMembers_objectText (by simpa using ⟨hcache _ hodds, hport⟩)) (.swap _ _ _))
  have hremoved : Within "cache" (Omits "max_size") (Document.objectText "" [port, cache [size]])
      (Document.objectText "" [port, cache []]) :=
    ⟨[port], cache [size], [], _, hcacheName _, ⟨[], size, [], hsizeName,
      Document.hasMembers_objectText hsizes, Document.hasMembers_objectText nofun⟩,
      hobject _ hsizes, hobject _ nofun⟩
  have hshaped := (hshape _).1 (.tail (.single hinserted) hmoved)
  have hsmaller := (hshape _).2.2.1 Cache.Config.facets[2] (List.getElem_mem _) hremoved
  exact ⟨_, Document.eq_ok_of_toOption hs, hs_port, hs_size, hshaped, _, hsmaller, hs_port, rfl⟩

/-- A text that does not name anything may stand for no member of the settings, not even for one
that is passed over. -/
theorem not_read_of_nameless {es : List Document.Entry} (hobject : HasMembers t es)
    {e : Document.Entry} (he : e ∈ es) (hname : ∀ n, ¬Document.Names e.key n) : read t ≠ .ok s := by
  intro h
  obtain ⟨raw, hraw, -⟩ := Document.exists_of_map_eq_ok h
  obtain ⟨n, hn⟩ := hobject.named layout_facets (hobject.loads_of_readAs hraw) he
  exact hname n hn

/-- The object without members is accepted. One more member, whose name is a lone surrogate and so
not that of a field, and it is refused. -/
theorem lone_surrogate_is_no_name :
    let e : Document.Entry := ⟨"\"\\ud800\"", "1"⟩
    HasMembers "\x7b\x7d" [] ∧ read "\x7b\x7d" = .ok ({} : Settings).coerced ∧
      e.WellFormed ∧ (∀ name ∈ fields.map (·.name), ¬Document.Names e.key name) ∧
      HasMembers "\x7b\"\\ud800\":1\x7d" [e] ∧ ∀ s, read "\x7b\"\\ud800\":1\x7d" ≠ .ok s := by
  intro e
  have hempty : HasMembers "\x7b\x7d" [] := Document.hasMembers_objectText nofun
  have hquotes : Document.Quotes [.word 0xd800] e.key :=
    ⟨"", "", ['\\', 'u', 'd', '8', '0', '0'], Document.blank_empty, Document.blank_empty,
      .unit rfl .nil, rfl⟩
  have he : e.WellFormed :=
    ⟨⟨_, hquotes⟩, Document.wellFormed_of_digits [] (c := '1') (by decide) rfl⟩
  have hname : ∀ n, ¬Document.Names e.key n := by
    intro n hn
    have hkey := hn.key_eq
    rw [Document.Key.ofText, (hquotes.reads_of_surrogate rfl).meaning_eq] at hkey
    cases hkey
  have hobject : HasMembers (Document.objectText "" [e]) [e] :=
    Document.hasMembers_objectText (by simpa using he)
  exact ⟨hempty, read_of_loads ⟨_, hempty.reads, rfl⟩, he, fun n _ => hname n, hobject,
    fun s => not_read_of_nameless hobject List.mem_cons_self hname⟩

end

end Settings

end Resilience
