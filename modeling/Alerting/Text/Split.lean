/-!
# Pieces of a text

A text splits at every mark, and the pieces between two marks may be empty.
-/
namespace Alerting.Text

def split (mark : Char) : List Char → List (List Char)
  | [] => [[]]
  | c :: rest =>
    if c = mark then [] :: split mark rest
    else
      match split mark rest with
      | [] => [[c]]
      | piece :: pieces => (c :: piece) :: pieces

end Alerting.Text
