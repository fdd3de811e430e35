import PageBuilder.Content.Atoms
import PageBuilder.Content.Marketing
import PageBuilder.Proofs.Json.Record
import PageBuilder.Settings

set_option autoImplicit false

namespace PageBuilder

open Json (Codec Field LawfulCodec Record)

/-- Every option reads back from its token. -/
class LawfulToken (α : Type) [Token α] : Prop where
  parse_text : ∀ option : α, Token.parse (Token.text option) = option

instance {α : Type} [Token α] [LawfulToken α] : LawfulCodec α where
  bound := 0
  roundTrips := by
    refine ⟨fun _ => trivial, fun _ => Nat.le_refl _, ?_⟩
    intro option source _ shows
    have given : source.isNull = false := shows.isNull_eq_false (by simp [Codec.encode])
    change (if source.isNull then _ else do return Token.parse (← source.string "a string")) = _
    rw [given, if_neg Bool.false_ne_true, shows.string_eq]
    exact congrArg Except.ok (LawfulToken.parse_text option)

instance : LawfulToken Spacing := ⟨by rintro ⟨⟩ <;> rfl⟩

instance : LawfulToken Radius := ⟨by rintro ⟨⟩ <;> rfl⟩

instance : LawfulToken Animation := ⟨by rintro ⟨⟩ <;> rfl⟩

instance : LawfulToken Alignment := ⟨by rintro ⟨⟩ <;> rfl⟩

instance : LawfulToken TextAlign := ⟨by rintro ⟨⟩ <;> rfl⟩

instance : LawfulToken LayoutStyle := ⟨by rintro ⟨⟩ <;> rfl⟩

instance : LawfulToken LogoType := ⟨by rintro ⟨⟩ <;> rfl⟩

instance : LawfulToken ButtonVariant := ⟨by rintro ⟨⟩ <;> rfl⟩

instance : LawfulToken ButtonWidth := ⟨by rintro ⟨⟩ <;> rfl⟩

instance : LawfulToken ImageSide := ⟨by rintro ⟨⟩ <;> rfl⟩

instance : LawfulToken SplitRatio := ⟨by rintro ⟨⟩ <;> rfl⟩

instance : LawfulToken FieldType := ⟨by rintro ⟨⟩ <;> rfl⟩

instance : LawfulToken SocialPlatform := ⟨by rintro ⟨⟩ <;> rfl⟩

instance : LawfulToken ImageWidth := ⟨by rintro ⟨⟩ <;> rfl⟩

instance : LawfulToken AspectRatio := ⟨by rintro ⟨⟩ <;> rfl⟩

instance : LawfulToken TextTag := ⟨by rintro ⟨⟩ <;> rfl⟩

instance : LawfulToken FontSize := ⟨by rintro ⟨⟩ <;> rfl⟩

instance : LawfulToken FontWeight := ⟨by rintro ⟨⟩ <;> rfl⟩

instance : LawfulToken LineWidth := ⟨by rintro ⟨⟩ <;> rfl⟩

instance : LawfulToken TestimonialLayout := ⟨by rintro ⟨⟩ <;> rfl⟩

instance : LawfulToken FontFamily := ⟨by rintro ⟨⟩ <;> rfl⟩

instance : LawfulToken Language := ⟨by rintro ⟨⟩ <;> rfl⟩

theorem NavLink.record_faithful : NavLink.record.Faithful 0 where
  determined := by
    rintro ⟨⟩ ⟨⟩ same
    simpa [Record.writes, NavLink.record, Field.of] using same

instance : LawfulCodec NavLink := NavLink.record_faithful.lawfulCodec

theorem FeatureItem.record_faithful : FeatureItem.record.Faithful 0 where
  determined := by
    rintro ⟨⟩ ⟨⟩ same
    simpa [Record.writes, FeatureItem.record, Field.of] using same

instance : LawfulCodec FeatureItem := FeatureItem.record_faithful.lawfulCodec

theorem SocialLink.record_faithful : SocialLink.record.Faithful 0 where
  determined := by
    rintro ⟨⟩ ⟨⟩ same
    simpa [Record.writes, SocialLink.record, Field.of] using same

instance : LawfulCodec SocialLink := SocialLink.record_faithful.lawfulCodec

theorem FormField.record_faithful : FormField.record.Faithful 0 where
  determined := by
    rintro ⟨⟩ ⟨⟩ same
    simpa [Record.writes, FormField.record, Field.of] using same

instance : LawfulCodec FormField := FormField.record_faithful.lawfulCodec

theorem PricingPlan.record_faithful : PricingPlan.record.Faithful 1 where
  restored := by
    repeat refine .cons (.plain (by decide) fun _ _ => rfl) ?_
    exact .cons (.optional (by decide) (fun _ => by simp [Codec.encode]) rfl fun _ _ => rfl) .nil
  determined := by
    rintro ⟨⟩ ⟨⟩ same
    simpa [Record.writes, PricingPlan.record, Field.of, Field.optional] using same

instance : LawfulCodec PricingPlan := PricingPlan.record_faithful.lawfulCodec

theorem TestimonialItem.record_faithful : TestimonialItem.record.Faithful 0 where
  determined := by
    rintro ⟨⟩ ⟨⟩ same
    simpa [Record.writes, TestimonialItem.record, Field.of] using same

instance : LawfulCodec TestimonialItem := TestimonialItem.record_faithful.lawfulCodec

theorem TeamMember.record_faithful : TeamMember.record.Faithful 0 where
  determined := by
    rintro ⟨⟩ ⟨⟩ same
    simpa [Record.writes, TeamMember.record, Field.of] using same

instance : LawfulCodec TeamMember := TeamMember.record_faithful.lawfulCodec

theorem FaqItem.record_faithful : FaqItem.record.Faithful 0 where
  determined := by
    rintro ⟨⟩ ⟨⟩ same
    simpa [Record.writes, FaqItem.record, Field.of] using same

instance : LawfulCodec FaqItem := FaqItem.record_faithful.lawfulCodec

theorem Navigation.record_faithful : Navigation.record.Faithful 2 where
  determined := by
    rintro ⟨⟩ ⟨⟩ same
    simpa [Record.writes, Navigation.record, Field.of] using same

instance : LawfulCodec Navigation := Navigation.record_faithful.lawfulCodec

theorem Hero.record_faithful : Hero.record.Faithful 0 where
  determined := by
    rintro ⟨⟩ ⟨⟩ same
    simpa [Record.writes, Hero.record, Field.of] using same

instance : LawfulCodec Hero := Hero.record_faithful.lawfulCodec

theorem Features.record_faithful : Features.record.Faithful 2 where
  determined := by
    rintro ⟨⟩ ⟨⟩ same
    simpa [Record.writes, Features.record, Field.of] using same

instance : LawfulCodec Features := Features.record_faithful.lawfulCodec

theorem CallToAction.record_faithful : CallToAction.record.Faithful 0 where
  determined := by
    rintro ⟨⟩ ⟨⟩ same
    simpa [Record.writes, CallToAction.record, Field.of] using same

instance : LawfulCodec CallToAction := CallToAction.record_faithful.lawfulCodec

theorem Footer.record_faithful : Footer.record.Faithful 2 where
  determined := by
    rintro ⟨⟩ ⟨⟩ same
    simpa [Record.writes, Footer.record, Field.of] using same

instance : LawfulCodec Footer := Footer.record_faithful.lawfulCodec

theorem Split.record_faithful : Split.record.Faithful 0 where
  determined := by
    rintro ⟨⟩ ⟨⟩ same
    simpa [Record.writes, Split.record, Field.of] using same

instance : LawfulCodec Split := Split.record_faithful.lawfulCodec

theorem MapEmbed.record_faithful : MapEmbed.record.Faithful 0 where
  determined := by
    rintro ⟨⟩ ⟨⟩ same
    simpa [Record.writes, MapEmbed.record, Field.of] using same

instance : LawfulCodec MapEmbed := MapEmbed.record_faithful.lawfulCodec

theorem ContactForm.record_faithful : ContactForm.record.Faithful 2 where
  determined := by
    rintro ⟨⟩ ⟨⟩ same
    simpa [Record.writes, ContactForm.record, Field.of] using same

instance : LawfulCodec ContactForm := ContactForm.record_faithful.lawfulCodec

theorem Picture.record_faithful : Picture.record.Faithful 0 where
  determined := by
    rintro ⟨⟩ ⟨⟩ same
    simpa [Record.writes, Picture.record, Field.of] using same

instance : LawfulCodec Picture := Picture.record_faithful.lawfulCodec

theorem Prose.record_faithful : Prose.record.Faithful 0 where
  determined := by
    rintro ⟨⟩ ⟨⟩ same
    simpa [Record.writes, Prose.record, Field.of] using same

instance : LawfulCodec Prose := Prose.record_faithful.lawfulCodec

theorem ButtonLink.record_faithful : ButtonLink.record.Faithful 0 where
  determined := by
    rintro ⟨⟩ ⟨⟩ same
    simpa [Record.writes, ButtonLink.record, Field.of] using same

instance : LawfulCodec ButtonLink := ButtonLink.record_faithful.lawfulCodec

theorem Divider.record_faithful : Divider.record.Faithful 0 where
  determined := by
    rintro ⟨⟩ ⟨⟩ same
    simpa [Record.writes, Divider.record, Field.of] using same

instance : LawfulCodec Divider := Divider.record_faithful.lawfulCodec

theorem Pricing.record_faithful : Pricing.record.Faithful 3 where
  determined := by
    rintro ⟨⟩ ⟨⟩ same
    simpa [Record.writes, Pricing.record, Field.of] using same

instance : LawfulCodec Pricing := Pricing.record_faithful.lawfulCodec

theorem Testimonials.record_faithful : Testimonials.record.Faithful 2 where
  determined := by
    rintro ⟨⟩ ⟨⟩ same
    simpa [Record.writes, Testimonials.record, Field.of] using same

instance : LawfulCodec Testimonials := Testimonials.record_faithful.lawfulCodec

theorem Team.record_faithful : Team.record.Faithful 2 where
  determined := by
    rintro ⟨⟩ ⟨⟩ same
    simpa [Record.writes, Team.record, Field.of] using same

instance : LawfulCodec Team := Team.record_faithful.lawfulCodec

theorem Faq.record_faithful : Faq.record.Faithful 2 where
  determined := by
    rintro ⟨⟩ ⟨⟩ same
    simpa [Record.writes, Faq.record, Field.of] using same

instance : LawfulCodec Faq := Faq.record_faithful.lawfulCodec

theorem Settings.record_faithful : Settings.record.Faithful 0 where
  determined := by
    rintro ⟨⟩ ⟨⟩ same
    simpa [Record.writes, Settings.record, Field.of] using same

instance : LawfulCodec Settings := Settings.record_faithful.lawfulCodec

theorem Preferences.record_faithful : Preferences.record.Faithful 0 where
  determined := by
    rintro ⟨⟩ ⟨⟩ same
    simpa [Record.writes, Preferences.record, Field.of] using same

instance : LawfulCodec Preferences := Preferences.record_faithful.lawfulCodec

end PageBuilder
