import FlatStyle.SortedMap

namespace FlatStyle

abbrev PropertyMap := SortedMap String String

end FlatStyle
