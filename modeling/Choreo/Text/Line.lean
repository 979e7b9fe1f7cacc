/-!
Line ends. A line may end in a line feed, a carriage return or the two together.
-/

namespace Choreo
namespace Text

/-- A text with a line feed for every line end. -/
def withLineFeeds : List Char → List Char
  | [] => []
  | '\r' :: '\n' :: rest => '\n' :: withLineFeeds rest
  | '\r' :: rest => '\n' :: withLineFeeds rest
  | c :: rest => c :: withLineFeeds rest

end Text
end Choreo
