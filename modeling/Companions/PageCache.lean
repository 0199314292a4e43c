import Companions.Companion
import Companions.Descriptor

/-! The pages fetched lately, by view. A page is good while it is younger than the time to live; the
page not used for longest makes room for a new one. The order of use and the eviction are those that
the `lru` library documents, which keeps the pages and is no part of the program itself. -/
namespace Companions

/-- A point in time or a length of time, in nanoseconds of a clock that never goes back. -/
abbrev Nanos := Nat

def Nanos.ofMillis (ms : Nat) : Nanos := ms * 1000000

def Nanos.ofSeconds (s : Nat) : Nanos := s * 1000000000

/-- A page as it was stored. -/
structure Kept where
  key : String
  page : Page
  storedAt : Nanos

structure PageCache where
  ttl : Nanos
  /-- The most pages held, less one. -/
  spare : Nat
  /-- The page used last comes first. -/
  pages : List Kept := []

namespace PageCache

/-- A capacity of zero counts as one. -/
def ofCapacity (ttl : Nanos) (capacity : Nat) : PageCache := { ttl, spare := capacity - 1 }

def defaultTtl : Nanos := Nanos.ofSeconds 300

def defaultCapacity : Nat := 256

def capacity (c : PageCache) : Nat := c.spare + 1

def size (c : PageCache) : Nat := c.pages.length

def without (key : String) (pages : List Kept) : List Kept := pages.filter fun k => k.key != key

/-- The page of a view if it is still good. It becomes the one used last; an expired one is
dropped. -/
def get (now : Nanos) (d : Descriptor) (c : PageCache) : Option Page × PageCache :=
  match c.pages.find? fun k => k.key == d.cacheKey with
  | none => (none, c)
  | some kept =>
    let rest := without d.cacheKey c.pages
    if now - kept.storedAt < c.ttl then (some kept.page, { c with pages := kept :: rest })
    else (none, { c with pages := rest })

/-- Store a page, in place of an older one of the same view. -/
def set (now : Nanos) (d : Descriptor) (page : Page) (c : PageCache) : PageCache :=
  { c with pages := (⟨d.cacheKey, page, now⟩ :: without d.cacheKey c.pages).take c.capacity }

def clear (c : PageCache) : PageCache := { c with pages := [] }

def erase (d : Descriptor) (c : PageCache) : PageCache :=
  { c with pages := without d.cacheKey c.pages }

end PageCache
end Companions
