import PageBuilder.Page.Node
import PageBuilder.Page.Style
import PageBuilder.Settings

set_option autoImplicit false

namespace PageBuilder

structure Section where
  kind : String
  instanceId : InstanceId
  anchor : Option String
  style : ResolvedStyle
  body : List Node

structure Page where
  settings : Settings
  sections : List Section

end PageBuilder
