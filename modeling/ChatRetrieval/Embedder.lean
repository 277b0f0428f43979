import ChatRetrieval.Http.Transport

/-!
Turning texts into vectors. An embedder is a function; using one as part of an action leaves a record
of the texts it was given.
-/

namespace ChatRetrieval

structure Embedder where
  /-- The vector of each text, in order, if all goes well. -/
  vectors : List String → Result (List (List Double))

/-- Embeds texts and notes them in the session, whatever comes of it. -/
def Embedder.embed (e : Embedder) (texts : List String) : Action (List (List Double)) := fun s =>
  (e.vectors texts, { s with embedded := s.embedded ++ [texts] })

end ChatRetrieval
